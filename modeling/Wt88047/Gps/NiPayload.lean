import Wt88047.Gps.NiSession

/-! The payloads of network initiated requests: each one is forwarded or freed, once. -/

namespace Wt88047.Ni

def Record.forwards (p : Nat) : Record → Bool
  | .informed _ msg => msg.mPayload = p
  | _ => false

def Record.frees (p : Nat) : Record → Bool
  | .freed q _ => q = p
  | _ => false

def Record.brings (p : Nat) : Record → Bool
  | .stored _ _ _ r | .rejected _ r => r = some p
  | _ => false

def Record.idle : Record → Bool
  | .stored .. | .rejected .. | .informed .. | .freed .. => false
  | .numbered .. | .notified .. | .responded .. | .started .. | .left .. | .sent .. => true

theorem Record.idle_counts (r : Record) (h : r.idle = true) (p : Nat) :
    r.forwards p = false ∧ r.frees p = false ∧ r.brings p = false := by
  cases r <;> first | exact ⟨rfl, rfl, rfl⟩ | cases h

def ThreadStage.pending : ThreadStage → Option InformNiResponse
  | .clearTime msg | .clearId msg | .sendMsg msg => msg
  | .created | .waiting _ | .ended => none

def HandlerStage.holds (p : Nat) : HandlerStage → Bool
  | .store _ _ _ r => r = some p
  | _ => false

def HandlerStage.plain : HandlerStage → Bool
  | .store .. | .resetNull _ => false
  | .idle | .number .. | .fill .. | .setTime .. | .create .. | .notify .. | .resetCheck _
  | .resetFree _ | .resetMark _ => true

theorem HandlerStage.plain_holds {h : HandlerStage} (hp : h.plain = true) (p : Nat) :
    h.holds p = false := by
  cases h <;> first | rfl | cases hp

def SessionKind.other : SessionKind → SessionKind
  | .session => .sessionEs
  | .sessionEs => .session

theorem SessionKind.other_ne (k : SessionKind) : k.other ≠ k := by cases k <;> simp [other]

namespace State

def settled (p : Nat) (s : State) : Nat := s.log.countP (·.forwards p) + s.log.countP (·.frees p)

def brought (p : Nat) (s : State) : Nat := s.log.countP (·.brings p)

/-- The record owns the payload. What a reset has freed but not yet cleared, it does not own. -/
def owned (p : Nat) (s : State) (k : SessionKind) : Nat :=
  if (s.ni k).rawRequest = some p ∧ s.handler ≠ .resetNull k then 1 else 0

def held (p : Nat) (s : State) : Nat :=
  (if s.handler.holds p then 1 else 0) + s.owned p .session + s.owned p .sessionEs

/-- The thread of request `n` does not exist, or is in its loop on record `k`. -/
def Awaited (s : State) (n : Nat) (k : SessionKind) : Prop :=
  ∀ t, s.thread n = some t → t.pSession = k ∧ t.stage.looping = true

structure Custody (s : State) : Prop where
  balance : ∀ p, s.held p + s.settled p = s.brought p
  once : ∀ p, s.brought p ≤ if p < s.requests then 1 else 0
  own : ∀ r ∈ s.log, ∀ n k timeout p,
    r = .stored n k timeout (some p) ∨ r = .rejected n (some p) → p = n
  storing : ∀ n k timeout r, s.handler = .store n k timeout r →
    (s.ni k).rawRequest = none ∧ ∀ p, r = some p → p = n
  cleared : ∀ k p, s.handler = .resetNull k → (s.ni k).rawRequest = some p → 1 ≤ s.settled p
  creating : ∀ n k, s.handler.creates = some (n, k) →
    n < s.requests ∧ s.thread n = none ∧ ∀ k', (s.ni k').rawRequest = some n → k' = k
  threads : ∀ n t, s.thread n = some t → n < s.requests
  awaited : ∀ k n, (s.ni k).rawRequest = some n → s.Awaited n k
  turned : ∀ n r, .rejected n r ∈ s.log → n < s.requests ∧ s.log.countP (·.forwards n) = 0 ∧
    (∀ k, (s.ni k).rawRequest ≠ some n) ∧ ∀ k timeout r', s.handler ≠ .store n k timeout r'

def leaves (s : State) : Event → Option SessionKind
  | .thread n =>
    match s.thread n with
    | some ⟨k, .created⟩ | some ⟨k, .waiting _⟩ => if (s.ni k).respRecvd then some k else none
    | _ => none
  | .timeout n =>
    match s.thread n with
    | some ⟨k, .waiting expireTime⟩ => if expireTime ≤ s.now then some k else none
    | _ => none
  | _ => none

/-- No thread leaves its loop between the `free` of a reset and the NULL written after it. -/
def spared (s : State) (e : Event) : Bool :=
  match s.leaves e with
  | some k => s.handler ≠ .resetNull k || (s.ni k).rawRequest.isNone
  | none => true

/-- A payload that was let in is forwarded or freed at most once, and has been when the thread of
its session has ended; one that was turned away is freed and in no record. A message that forwards
a payload is sent by the thread that made it, once. -/
structure Owned (s : State) : Prop where
  accepted : ∀ n k timeout p, .stored n k timeout (some p) ∈ s.log → s.settled p ≤ 1 ∧
    ((∃ k, s.thread n = some ⟨k, .ended⟩) → s.settled p = 1)
  rejected : ∀ n p, .rejected n (some p) ∈ s.log → s.log.countP (·.frees p) = 1 ∧
    s.log.countP (·.forwards p) = 0 ∧ ∀ k, (s.ni k).rawRequest ≠ some p
  sent : ∀ n msg, s.log.count (.sent n msg) ≤ s.log.count (.informed n msg) ∧
    ((∃ k, s.thread n = some ⟨k, .ended⟩) →
      s.log.count (.sent n msg) = s.log.count (.informed n msg))

def pending (s : State) (n : Nat) : Option InformNiResponse :=
  (s.thread n).bind fun t => t.stage.pending

def Delivered (s : State) : Prop := ∀ n msg, s.log.count (.informed n msg) =
  s.log.count (.sent n msg) + if s.pending n = some msg then 1 else 0

variable {k : SessionKind} {l : List Record}

section Counts

variable {s u : State} {p : Nat}

theorem held_split (k : SessionKind) : s.held p =
    (if s.handler.holds p then 1 else 0) + s.owned p k + s.owned p k.other := by
  cases k
  · rfl
  · simp only [held, SessionKind.other]
    omega

theorem owned_congr (k : SessionKind) (hraw : (u.ni k).rawRequest = (s.ni k).rawRequest)
    (hnull : u.handler = .resetNull k ↔ s.handler = .resetNull k) :
    u.owned p k = s.owned p k := by
  unfold owned
  rw [hraw]
  simp only [ne_eq, hnull]

theorem owned_of_none (h : (s.ni k).rawRequest = none) : s.owned p k = 0 := by
  simp [owned, h]

theorem owned_of_raw (h : s.handler ≠ .resetNull k) :
    s.owned p k = if (s.ni k).rawRequest = some p then 1 else 0 := by
  simp [owned, h]

theorem countP_idle {f : Record → Bool} (hf : ∀ r, r.idle = true → f r = false)
    (h : ∀ r ∈ l, r.idle = true) : l.countP f = 0 := by
  apply List.countP_eq_zero.mpr
  intro r hr
  simp [hf r (h r hr)]

theorem settled_append (hlog : u.log = s.log ++ l) :
    u.settled p = s.settled p + (l.countP (·.forwards p) + l.countP (·.frees p)) := by
  simp only [settled, hlog, List.countP_append]
  omega

theorem brought_append (hlog : u.log = s.log ++ l) :
    u.brought p = s.brought p + l.countP (·.brings p) := by
  simp only [brought, hlog, List.countP_append]

end Counts

variable {n : Nat} {e : Event}

namespace Custody

variable {s u : State}

theorem brought_pos (h : s.Custody) {p : Nat} (hraw : (s.ni k).rawRequest = some p) :
    1 ≤ s.brought p := by
  have hb := h.balance p
  by_cases hn : s.handler = .resetNull k
  · have := h.cleared k p hn hraw
    omega
  · have ho : s.owned p k = 1 := by simp [owned, hraw, hn]
    have hs := held_split (s := s) (p := p) k
    omega

theorem raw_lt (h : s.Custody) {p : Nat} (hraw : (s.ni k).rawRequest = some p) :
    p < s.requests := by
  have hp := h.brought_pos hraw
  have ho := h.once p
  by_contra hlt
  rw [if_neg hlt] at ho
  omega

theorem congr (h : s.Custody) (hreq : u.requests = s.requests)
    (hraw : ∀ k, (u.ni k).rawRequest = (s.ni k).rawRequest)
    (hhandler : u.handler = s.handler ∨ s.handler.plain = true ∧ u.handler.plain = true ∧ ∀ x, u.handler.creates = some x → s.handler.creates = some x)
    (hthread : ∀ n t, u.thread n = some t → ∃ t', s.thread n = some t' ∧ t.pSession = t'.pSession ∧ (t'.stage.looping = true → t.stage.looping = true))
    (hlog : u.log = s.log ++ l) (hrs : ∀ r ∈ l, r.idle = true) : u.Custody := by
  have hnull : ∀ k, u.handler = .resetNull k ↔ s.handler = .resetNull k := by
    intro k
    rcases hhandler with heq | ⟨hs, hu, -⟩
    · rw [heq]
    · constructor
      · intro hk
        rw [hk] at hu
        cases hu
      · intro hk
        rw [hk] at hs
        cases hs
  have hstore : ∀ n k timeout r, u.handler = .store n k timeout r →
      s.handler = .store n k timeout r := by
    intro n k timeout r hk
    rcases hhandler with heq | ⟨-, hu, -⟩
    · rw [← heq, hk]
    · rw [hk] at hu
      cases hu
  have hholds : ∀ p, u.handler.holds p = s.handler.holds p := by
    intro p
    rcases hhandler with heq | ⟨hs, hu, -⟩
    · rw [heq]
    · rw [HandlerStage.plain_holds hs, HandlerStage.plain_holds hu]
  have hcreates : ∀ x, u.handler.creates = some x → s.handler.creates = some x := by
    intro x hx
    rcases hhandler with heq | ⟨-, -, hc⟩
    · rw [← heq, hx]
    · exact hc x hx
  have hsettled : ∀ p, u.settled p = s.settled p := by
    intro p
    rw [settled_append hlog, countP_idle (fun r hr => (r.idle_counts hr p).1) hrs,
      countP_idle (fun r hr => (r.idle_counts hr p).2.1) hrs, Nat.add_zero]
  have hbrought : ∀ p, u.brought p = s.brought p := by
    intro p
    rw [brought_append hlog, countP_idle (fun r hr => (r.idle_counts hr p).2.2) hrs,
      Nat.add_zero]
  have hforwards : ∀ n, u.log.countP (·.forwards n) = s.log.countP (·.forwards n) := by
    intro n
    rw [hlog, List.countP_append, countP_idle (fun r hr => (r.idle_counts hr n).1) hrs,
      Nat.add_zero]
  have hmem : ∀ r ∈ u.log, r.idle = false → r ∈ s.log := by
    intro r hr hi
    rw [hlog] at hr
    rcases List.mem_append.mp hr with hr | hr
    · exact hr
    · rw [hrs r hr] at hi
      cases hi
  constructor
  · intro p
    have := h.balance p
    unfold held at *
    rw [hsettled, hbrought, hholds, owned_congr _ (hraw _) (hnull _),
      owned_congr _ (hraw _) (hnull _)]
    exact this
  · intro p
    rw [hbrought, hreq]
    exact h.once p
  · rintro r hr n k timeout p (rfl | rfl)
    · exact h.own _ (hmem _ hr rfl) n k timeout p (Or.inl rfl)
    · exact h.own _ (hmem _ hr rfl) n k timeout p (Or.inr rfl)
  · intro n k timeout r hk
    rw [hraw]
    exact h.storing n k timeout r (hstore _ _ _ _ hk)
  · intro k p hk hp
    rw [hsettled]
    exact h.cleared k p ((hnull k).mp hk) (by rw [← hraw, hp])
  · intro n k hk
    obtain ⟨hn, ht, hr⟩ := h.creating n k (hcreates _ hk)
    refine ⟨by rwa [hreq], ?_, fun k' hk' => hr k' (by rw [← hraw, hk'])⟩
    cases hu : u.thread n with
    | none => rfl
    | some t =>
      obtain ⟨t', ht', -⟩ := hthread n t hu
      rw [ht] at ht'
      cases ht'
  · intro n t ht
    obtain ⟨t', ht', -⟩ := hthread n t ht
    rw [hreq]
    exact h.threads n t' ht'
  · intro k n hk t ht
    obtain ⟨t', ht', hses, hloop⟩ := hthread n t ht
    obtain ⟨h1, h2⟩ := h.awaited k n (by rw [← hraw, hk]) t' ht'
    exact ⟨hses.trans h1, hloop h2⟩
  · intro n r hr
    obtain ⟨h1, h2, h3, h4⟩ := h.turned n r (hmem _ hr rfl)
    refine ⟨by rwa [hreq], by rwa [hforwards], fun k hk => h3 k (by rw [← hraw, hk]), ?_⟩
    intro k timeout r' hk
    exact h4 k timeout r' (hstore _ _ _ _ hk)

theorem init (now : Int) : (State.init now).Custody where
  balance _ := rfl
  once _ := Nat.zero_le _
  own _ hr := by cases hr
  storing _ _ _ _ h := by cases h
  cleared _ _ h := by cases h
  creating _ _ h := by cases h
  threads _ _ h := by cases h
  awaited _ _ h := by cases h
  turned _ _ hr := by cases hr

theorem unseen (h : s.Custody) : (∀ k, (s.ni k).rawRequest ≠ some s.requests) ∧
    s.thread s.requests = none ∧ s.brought s.requests = 0 ∧ s.settled s.requests = 0 := by
  have hb := h.once s.requests
  rw [if_neg (Nat.lt_irrefl _)] at hb
  have hs := h.balance s.requests
  refine ⟨fun k hk => absurd (h.raw_lt hk) (Nat.lt_irrefl _), ?_, by omega, by omega⟩
  cases ht : s.thread s.requests with
  | none => rfl
  | some t => exact absurd (h.threads _ t ht) (Nat.lt_irrefl _)

theorem reject (h : s.Custody) (hidle : s.handler = .idle) (passThrough : Bool)
    (hu : u = { s with
      requests := s.requests + 1
      log := s.log ++ if passThrough
        then [Record.rejected s.requests (some s.requests), .freed s.requests none]
        else [.rejected s.requests none] }) : u.Custody := by
  obtain ⟨hraw, -, -, hsettled⟩ := h.unseen
  have hlog : u.log = s.log ++ if passThrough
      then [Record.rejected s.requests (some s.requests), .freed s.requests none]
      else [.rejected s.requests none] := by rw [hu]
  have hforwards : ∀ n, u.log.countP (·.forwards n) = s.log.countP (·.forwards n) := by
    intro n
    rw [hlog]
    cases passThrough <;> simp [Record.forwards]
  have hturned : ∀ n r, .rejected n r ∈ u.log → .rejected n r ∈ s.log ∨ n = s.requests := by
    intro n r hr
    rw [hlog] at hr
    cases passThrough <;> simp at hr <;> tauto
  have hcounts : ∀ p, u.held p = s.held p ∧
      u.settled p = s.settled p + (if passThrough ∧ s.requests = p then 1 else 0) ∧
      u.brought p = s.brought p + if passThrough ∧ s.requests = p then 1 else 0 := by
    intro p
    refine ⟨by rw [hu]; rfl, ?_, ?_⟩
    · rw [settled_append hlog]
      cases passThrough <;> simp [Record.forwards, Record.frees, List.countP_cons]
    · rw [brought_append hlog]
      cases passThrough <;> simp [Record.brings, List.countP_cons]
  constructor
  · intro p
    obtain ⟨h1, h2, h3⟩ := hcounts p
    have := h.balance p
    omega
  · intro p
    have h1 := h.once p
    rw [(hcounts p).2.2, hu]
    dsimp only
    split_ifs at h1 ⊢ <;> omega
  · intro r hr
    rw [hlog] at hr
    rcases List.mem_append.mp hr with hr | hr
    · exact h.own r hr
    · rintro n k timeout p (rfl | rfl)
      · cases passThrough <;> simp at hr
      · cases passThrough <;> simp at hr
        rw [hr.1, hr.2]
  · intro n k timeout r hk
    rw [hu] at hk
    exact absurd (hidle.symm.trans hk) (by simp)
  · intro k p hk
    rw [hu] at hk
    exact absurd (hidle.symm.trans hk) (by simp)
  · intro n k hk
    rw [hu] at hk
    rw [show s.handler = .idle from hidle] at hk
    cases hk
  · intro n t hn
    rw [hu] at hn ⊢
    exact Nat.lt_succ_of_lt (h.threads n t hn)
  · intro k n hk
    rw [hu] at hk ⊢
    exact h.awaited k n hk
  · intro n r hr
    rcases hturned n r hr with hr | rfl
    · obtain ⟨h1, h2, h3, h4⟩ := h.turned n r hr
      rw [hforwards, hu]
      exact ⟨Nat.lt_succ_of_lt h1, h2, h3, h4⟩
    · rw [hforwards, hu]
      refine ⟨Nat.lt_succ_self _, by unfold settled at hsettled; omega, hraw, ?_⟩
      intro k timeout r' hk
      exact absurd (hidle.symm.trans hk) (by simp)

theorem letIn (h : s.Custody) (hidle : s.handler = .idle) {timeout : Int} {r : Option Nat}
    (hfree : (s.ni k).rawRequest = none) (hr : r = none ∨ r = some s.requests) (hu : u = { s with
      requests := s.requests + 1
      handler := .store s.requests k timeout r
      log := s.log ++ [Record.stored s.requests k timeout r] }) : u.Custody := by
  obtain ⟨hraw, hthread, -, -⟩ := h.unseen
  have hlog : u.log = s.log ++ [Record.stored s.requests k timeout r] := by rw [hu]
  have hown : ∀ p, r = some p → p = s.requests := by
    rintro p rfl
    rcases hr with hr | hr
    · cases hr
    · exact Option.some.inj hr
  have hcounts : ∀ p, u.held p = s.held p + (if r = some p then 1 else 0) ∧
      u.settled p = s.settled p ∧ u.brought p = s.brought p + if r = some p then 1 else 0 := by
    intro p
    refine ⟨?_, ?_, ?_⟩
    · rw [hu]
      simp [held, owned, hidle, HandlerStage.holds]
      omega
    · rw [settled_append hlog]
      simp [Record.forwards, Record.frees]
    · rw [brought_append hlog]
      simp [Record.brings, List.countP_cons]
  constructor
  · intro p
    obtain ⟨h1, h2, h3⟩ := hcounts p
    have := h.balance p
    omega
  · intro p
    have h1 := h.once p
    rw [(hcounts p).2.2, hu]
    dsimp only
    by_cases hp : r = some p
    · obtain rfl := hown p hp
      split_ifs at h1 ⊢ <;> omega
    · split_ifs at h1 ⊢ <;> omega
  · intro r' hr'
    rw [hlog] at hr'
    rcases List.mem_append.mp hr' with hr' | hr'
    · exact h.own r' hr'
    · obtain rfl := List.mem_singleton.mp hr'
      rintro n k' timeout' p (he | he) <;> cases he
      exact hown p rfl
  · intro n k' timeout' r' hk
    rw [hu] at hk ⊢
    cases hk
    exact ⟨hfree, hown⟩
  · intro k' p hk
    rw [hu] at hk
    cases hk
  · intro n k' hk
    rw [hu] at hk ⊢
    cases hk
    exact ⟨Nat.lt_succ_self _, hthread, fun k'' hk'' => absurd hk'' (hraw k'')⟩
  · intro n t hn
    rw [hu] at hn ⊢
    exact Nat.lt_succ_of_lt (h.threads n t hn)
  · intro k' n hk
    rw [hu] at hk ⊢
    exact h.awaited k' n hk
  · intro n r' hr'
    rw [hlog] at hr'
    obtain ⟨h1, h2, h3, -⟩ := h.turned n r' (by simpa using hr')
    rw [hu]
    refine ⟨Nat.lt_succ_of_lt h1, by simpa [Record.forwards] using h2, h3, ?_⟩
    intro k' timeout' r'' hk
    cases hk
    exact absurd h1 (Nat.lt_irrefl _)

theorem held_none (h : s.Custody) (hraw : ∀ k, (s.ni k).rawRequest ≠ some n)
    (hstore : ∀ k timeout r, s.handler ≠ .store n k timeout r) : s.held n = 0 := by
  have hholds : s.handler.holds n = false := by
    cases hs : s.handler with
    | store m k timeout r =>
      obtain ⟨-, hm⟩ := h.storing m k timeout r hs
      by_contra hne
      have hr : r = some n := by simpa [HandlerStage.holds] using hne
      obtain rfl := hm n hr
      exact hstore k timeout r hs
    | _ => rfl
  simp [held, State.owned, hholds, hraw]

theorem shift (h : s.Custody) (hreq : u.requests = s.requests) (ht : u.thread = s.thread)
    (hraw : ∀ k p, (u.ni k).rawRequest = some p → (s.ni k).rawRequest = some p ∨ ∃ timeout, s.handler = .store p k timeout (some p))
    (hcreates : ∀ x, u.handler.creates = some x → s.handler.creates = some x)
    (hstore : ∀ n k timeout r, u.handler = .store n k timeout r → s.handler = .store n k timeout r ∧ ((s.ni k).rawRequest = none → (u.ni k).rawRequest = none))
    (hlog : u.log = s.log ++ l)
    (hrs : ∀ r ∈ l, (∀ p, r.brings p = false) ∧ ∀ n, r ≠ .rejected n none)
    (hbalance : ∀ p, u.held p + (l.countP (·.forwards p) + l.countP (·.frees p)) = s.held p)
    (hcleared : ∀ k p, u.handler = .resetNull k → (u.ni k).rawRequest = some p → 1 ≤ u.settled p) :
    u.Custody := by
  have hbrought : ∀ p, u.brought p = s.brought p := by
    intro p
    have : l.countP (·.brings p) = 0 := by
      apply List.countP_eq_zero.mpr
      intro r hr
      simp [(hrs r hr).1 p]
    rw [brought_append hlog, this, Nat.add_zero]
  have hmem : ∀ r ∈ u.log, r ∈ l ∨ r ∈ s.log := by
    intro r hr
    rw [hlog] at hr
    exact (List.mem_append.mp hr).symm
  constructor
  · intro p
    have := h.balance p
    have := hbalance p
    rw [settled_append hlog, hbrought]
    omega
  · intro p
    rw [hbrought, hreq]
    exact h.once p
  · intro r hr
    rcases hmem r hr with hr | hr
    · rintro n k timeout p (rfl | rfl)
      · exact absurd ((hrs _ hr).1 p) (by simp [Record.brings])
      · exact absurd ((hrs _ hr).1 p) (by simp [Record.brings])
    · exact h.own r hr
  · intro n k timeout r hk
    obtain ⟨hs, hn⟩ := hstore n k timeout r hk
    obtain ⟨h1, h2⟩ := h.storing n k timeout r hs
    exact ⟨hn h1, h2⟩
  · exact hcleared
  · intro n k hk
    obtain ⟨h1, h2, h3⟩ := h.creating n k (hcreates _ hk)
    refine ⟨by rwa [hreq], by rwa [ht], fun k' hk' => ?_⟩
    rcases hraw k' n hk' with hr | ⟨timeout, hs⟩
    · exact h3 k' hr
    · have hc := hcreates _ hk
      rw [hs] at hc
      exact congrArg Prod.snd (Option.some.inj hc)
  · intro n t hn
    rw [ht] at hn
    rw [hreq]
    exact h.threads n t hn
  · intro k n hk t hn
    rw [ht] at hn
    rcases hraw k n hk with hr | ⟨timeout, hs⟩
    · exact h.awaited k n hr t hn
    · obtain ⟨-, hnone, -⟩ := h.creating n k (by rw [hs]; rfl)
      rw [hnone] at hn
      cases hn
  · intro n r hr
    rcases hmem _ hr with hr | hr
    · cases r with
      | none => exact absurd rfl ((hrs _ hr).2 n)
      | some p => exact absurd ((hrs _ hr).1 p) (by simp [Record.brings])
    · obtain ⟨h1, h2, h3, h4⟩ := h.turned n r hr
      have hheld := h.held_none h3 h4
      have hb := hbalance n
      have hforwards : l.countP (·.forwards n) = 0 := by omega
      refine ⟨by rwa [hreq], ?_, ?_, ?_⟩
      · rw [hlog, List.countP_append, h2, hforwards]
      · intro k hk
        rcases hraw k n hk with hr | ⟨timeout, hs⟩
        · exact h3 k hr
        · exact h4 k timeout _ hs
      · intro k timeout r' hk
        exact h4 k timeout r' (hstore _ _ _ _ hk).1

theorem setThread (h : s.Custody) {t : NiThread} (hn : n < s.requests)
    (hcreates : ∀ k, s.handler.creates ≠ some (n, k))
    (ht : ∀ k, (s.ni k).rawRequest = some n → t.pSession = k ∧ t.stage.looping = true) :
    (s.setThread n t).Custody where
  balance := h.balance
  once := h.once
  own := h.own
  storing := h.storing
  cleared := h.cleared
  creating m k hk := by
    obtain ⟨h1, h2, h3⟩ := h.creating m k hk
    refine ⟨h1, ?_, h3⟩
    have hne : m ≠ n := by
      rintro rfl
      exact hcreates k hk
    rw [setThread_ne _ hne, h2]
  threads m t' hm := by
    by_cases hne : m = n
    · rw [hne]
      exact hn
    · rw [setThread_ne _ hne] at hm
      exact h.threads m t' hm
  awaited k m hk t' hm := by
    by_cases hne : m = n
    · subst hne
      rw [setThread_same] at hm
      obtain rfl := Option.some.inj hm
      exact ht k hk
    · rw [setThread_ne _ hne] at hm
      exact h.awaited k m hk t' hm
  turned := h.turned

theorem same_threads (ht : u.thread = s.thread) (n : Nat) (t : NiThread)
    (hn : u.thread n = some t) : ∃ t', s.thread n = some t' ∧ t.pSession = t'.pSession ∧
      (t'.stage.looping = true → t.stage.looping = true) :=
  ⟨t, by rw [← ht, hn], rfl, id⟩

theorem proceed (h : s.Custody) (hreq : u.requests = s.requests) (ht : u.thread = s.thread)
    (hraw : ∀ k, (u.ni k).rawRequest = (s.ni k).rawRequest) (hs : s.handler.plain = true)
    (hu : u.handler.plain = true)
    (hcreates : ∀ x, u.handler.creates = some x → s.handler.creates = some x)
    (hlog : u.log = s.log ++ l) (hrs : ∀ r ∈ l, r.idle = true) : u.Custody :=
  h.congr hreq hraw (Or.inr ⟨hs, hu, hcreates⟩) (same_threads ht) hlog hrs

theorem storeRaw (h : s.Custody) {timeout : Int} {r : Option Nat}
    (hs : s.handler = .store n k timeout r)
    (hu : u = { s.setSession k { s.ni k with rawRequest := r } with
      handler := .number n k timeout }) : u.Custody := by
  obtain ⟨hnone, hown⟩ := h.storing n k timeout r hs
  have hn : u.ni = Function.update s.ni k { s.ni k with rawRequest := r } := by rw [hu]; rfl
  have hh : u.handler = .number n k timeout := by rw [hu]
  refine h.shift (l := []) (by rw [hu]; rfl) (by rw [hu]; rfl) ?_ ?_ ?_
    (by rw [hu, List.append_nil]; rfl) (by simp) ?_ ?_
  · intro k' p hp
    by_cases hk : k' = k
    · subst hk
      rw [hn, Function.update_self] at hp
      have hr : r = some p := hp
      obtain rfl := hown p hr
      exact Or.inr ⟨timeout, by rw [hs, hr]⟩
    · rw [hn, Function.update_of_ne hk] at hp
      exact Or.inl hp
  · intro x hx
    rw [hh] at hx
    rw [hs]
    exact hx
  · intro n' k' timeout' r' hk
    rw [hh] at hk
    cases hk
  · intro p
    have ho : s.owned p k = 0 := owned_of_none hnone
    have ho' : u.owned p k = if r = some p then 1 else 0 := by
      rw [owned_of_raw (by rw [hh]; simp), hn, Function.update_self]
    have hother : u.owned p k.other = s.owned p k.other := by
      apply owned_congr
      · rw [hn, Function.update_of_ne k.other_ne]
      · rw [hh, hs]
        simp
    rw [held_split k, held_split k, ho, ho', hother, hh, hs]
    simp [HandlerStage.holds]
  · intro k' p hk
    rw [hh] at hk
    cases hk

theorem freeRaw (h : s.Custody) (hs : s.handler = .resetFree k) (hu : u = { s with
      handler := .resetNull k
      log := s.log ++ ((s.ni k).rawRequest.map (Record.freed · none)).toList }) : u.Custody := by
  have hh : u.handler = .resetNull k := by rw [hu]
  have hlog : u.log = s.log ++ ((s.ni k).rawRequest.map (Record.freed · none)).toList := by rw [hu]
  have hni : u.ni = s.ni := by rw [hu]
  refine h.shift (by rw [hu]) (by rw [hu]) ?_ ?_ ?_ hlog ?_ ?_ ?_
  · intro k' p hp
    rw [hni] at hp
    exact Or.inl hp
  · intro x hx
    rw [hh] at hx
    cases hx
  · intro n k' timeout r hk
    rw [hh] at hk
    cases hk
  · intro r hr
    obtain ⟨p, -, rfl⟩ := by simpa using hr
    exact ⟨fun _ => rfl, fun _ => by simp⟩
  · intro p
    have ho : u.owned p k = 0 := by simp [owned, hh]
    have hs' : s.owned p k = if (s.ni k).rawRequest = some p then 1 else 0 :=
      owned_of_raw (by rw [hs]; simp)
    have hother : u.owned p k.other = s.owned p k.other := by
      apply owned_congr
      · rw [hni]
      · rw [hh, hs]
        simp [k.other_ne.symm]
    rw [held_split k, held_split k, ho, hother, hs', hh, hs]
    cases hr : (s.ni k).rawRequest with
    | none => simp [HandlerStage.holds]
    | some q =>
      simp [HandlerStage.holds, Record.forwards, Record.frees, List.countP_cons]
      omega
  · intro k' p hk hp
    rw [hh] at hk
    cases hk
    rw [hni] at hp
    rw [settled_append hlog, hp]
    simp [Record.forwards, Record.frees]

theorem nullRaw (h : s.Custody) (hs : s.handler = .resetNull k)
    (hu : u = { s.setSession k { s.ni k with rawRequest := none } with
      handler := .resetMark k }) : u.Custody := by
  have hh : u.handler = .resetMark k := by rw [hu]
  have hn : u.ni = Function.update s.ni k { s.ni k with rawRequest := none } := by rw [hu]; rfl
  refine h.shift (l := []) (by rw [hu]; rfl) (by rw [hu]; rfl) ?_ ?_ ?_
    (by rw [hu, List.append_nil]; rfl) (by simp) ?_ ?_
  · intro k' p hp
    by_cases hk : k' = k
    · rw [hk, hn, Function.update_self] at hp
      cases hp
    · rw [hn, Function.update_of_ne hk] at hp
      exact Or.inl hp
  · intro x hx
    rw [hh] at hx
    cases hx
  · intro n k' timeout r hk
    rw [hh] at hk
    cases hk
  · intro p
    have ho : s.owned p k = 0 := by simp [owned, hs]
    have ho' : u.owned p k = 0 := owned_of_none (by rw [hn, Function.update_self])
    have hother : u.owned p k.other = s.owned p k.other := by
      apply owned_congr
      · rw [hn, Function.update_of_ne k.other_ne]
      · rw [hh, hs]
        simp [k.other_ne.symm]
    rw [held_split k, held_split k, ho, ho', hother, hh, hs]
    rfl
  · intro k' p hk
    rw [hh] at hk
    cases hk

theorem runHandler (h : s.Custody) {createOk : Bool} (hu : s.runHandler createOk = some u) :
    u.Custody := by
  cases hs : s.handler with
  | idle => simp [State.runHandler, hs] at hu
  | store n k timeout r =>
    simp only [State.runHandler, hs, Option.some.injEq] at hu
    exact h.storeRaw hs hu.symm
  | number n k timeout =>
    simp only [State.runHandler, hs, Option.some.injEq] at hu
    refine h.proceed (l := [.numbered n (s.reqIDCounter + 1)]) (by rw [← hu]; rfl)
      (by rw [← hu]; rfl) ?_ (by rw [hs]; rfl) (by rw [← hu]; rfl) ?_ (by rw [← hu]; rfl) (by simp; rfl)
    · rw [← hu]
      exact setSession_keeps Session.rawRequest rfl
    · rw [← hu, hs]
      exact fun x hx => hx
  | fill n k timeout =>
    simp only [State.runHandler, hs, Option.some.injEq] at hu
    subst hu
    exact h.proceed (l := []) rfl rfl (fun _ => rfl) (by rw [hs]; rfl) rfl
      (by rw [hs]; exact fun x hx => hx) (by simp) (by simp)
  | setTime n k timeout id =>
    simp only [State.runHandler, hs, Option.some.injEq] at hu
    refine h.proceed (l := []) (by rw [← hu]; rfl) (by rw [← hu]; rfl) ?_ (by rw [hs]; rfl)
      (by rw [← hu]; rfl) ?_ (by rw [← hu]; simp; rfl) (by simp)
    · rw [← hu]
      exact setSession_keeps Session.rawRequest rfl
    · rw [← hu, hs]
      exact fun x hx => hx
  | create n k id =>
    simp only [State.runHandler, hs, Option.some.injEq] at hu
    obtain ⟨hn, -, hraw⟩ := h.creating n k (by rw [hs]; rfl)
    have hnotify : ({ s with handler := .notify n id } : State).Custody :=
      h.proceed (l := []) rfl rfl (fun _ => rfl) (by rw [hs]; rfl) rfl
        (by intro x hx; cases hx) (by simp) (by simp)
    cases createOk with
    | false =>
      rw [← hu]
      exact hnotify
    | true =>
      rw [← hu]
      refine hnotify.setThread hn (fun k' hk' => by cases hk') ?_
      exact fun k' hk' => ⟨(hraw k' hk').symm, rfl⟩
  | notify n id =>
    simp only [State.runHandler, hs, Option.some.injEq] at hu
    subst hu
    exact h.proceed (l := [.notified n id]) rfl rfl (fun _ => rfl) (by rw [hs]; rfl) rfl
      (by intro x hx; cases hx) rfl (by simp; rfl)
  | resetCheck k =>
    simp only [State.runHandler, hs, Option.some.injEq] at hu
    have hplain : u.handler.plain = true ∧ u.handler.creates = none := by
      rw [← hu]
      split_ifs
      · exact ⟨rfl, rfl⟩
      · cases k <;> exact ⟨rfl, rfl⟩
    refine h.proceed (l := []) (by rw [← hu]) (by rw [← hu]) (fun _ => by rw [← hu])
      (by rw [hs]; rfl) hplain.1 ?_ (by rw [← hu]; simp) (by simp)
    intro x hx
    rw [hplain.2] at hx
    cases hx
  | resetFree k =>
    simp only [State.runHandler, hs, Option.some.injEq] at hu
    refine h.freeRaw hs (hu.symm.trans ?_)
    cases hr : (s.ni k).rawRequest with
    | none => simp
    | some p => rfl
  | resetNull k =>
    simp only [State.runHandler, hs, Option.some.injEq] at hu
    exact h.nullRaw hs hu.symm
  | resetMark k =>
    simp only [State.runHandler, hs, Option.some.injEq] at hu
    have hplain : u.handler.plain = true ∧ u.handler.creates = none := by
      rw [← hu]
      cases k <;> exact ⟨rfl, rfl⟩
    refine h.proceed (l := []) (by rw [← hu]; rfl) (by rw [← hu]; rfl) ?_
      (by rw [hs]; rfl) hplain.1 ?_ (by rw [← hu]; simp; rfl) (by simp)
    · rw [← hu]
      exact setSession_keeps Session.rawRequest rfl
    · intro x hx
      rw [hplain.2] at hx
      cases hx

theorem leave (h : s.Custody) {stage : ThreadStage} (ht : s.thread n = some ⟨k, stage⟩)
    (hspared : s.handler = .resetNull k → (s.ni k).rawRequest = none) (timedOut : Bool) :
    (s.leave n k timedOut).Custody := by
  obtain ⟨rs, msg, heq, hrs⟩ := leave_cases n k timedOut s
  have hcount : ∀ p, (Record.left n timedOut s.now :: rs).countP (·.forwards p) +
      (Record.left n timedOut s.now :: rs).countP (·.frees p) =
        if (s.ni k).rawRequest = some p then 1 else 0 := by
    intro p
    rcases hrs with ⟨hr, rfl, -⟩ | ⟨q, hr, ⟨-, rfl, -⟩ | ⟨-, rfl, -⟩⟩
    · simp [hr, Record.forwards, Record.frees]
    · simp [hr, Record.forwards, Record.frees, List.countP_cons]
    · simp [hr, Record.forwards, Record.frees, List.countP_cons]
  have hquiet : ∀ r ∈ Record.left n timedOut s.now :: rs,
      (∀ p, r.brings p = false) ∧ ∀ n, r ≠ .rejected n none := by
    intro r hr
    rcases hrs with ⟨-, rfl, -⟩ | ⟨q, -, ⟨-, rfl, -⟩ | ⟨-, rfl, -⟩⟩ <;> simp at hr
    · rw [hr]
      exact ⟨fun _ => rfl, fun _ => by simp⟩
    · rcases hr with rfl | rfl <;> exact ⟨fun _ => rfl, fun _ => by simp⟩
    · rcases hr with rfl | rfl <;> exact ⟨fun _ => rfl, fun _ => by simp⟩
  obtain ⟨v, hv⟩ : ∃ v, v = { s with log := s.log ++ Record.left n timedOut s.now :: rs }.setSession k
      { s.ni k with respRecvd := false, rawRequest := none } := ⟨_, rfl⟩
  have hni : v.ni = Function.update s.ni k { s.ni k with respRecvd := false, rawRequest := none } := by
    rw [hv]
    rfl
  have hh : v.handler = s.handler := by rw [hv]; rfl
  have hlog : v.log = s.log ++ Record.left n timedOut s.now :: rs := by rw [hv]; rfl
  have hraw : ∀ k' p, (v.ni k').rawRequest = some p →
      k' ≠ k ∧ (s.ni k').rawRequest = some p := by
    intro k' p hp
    by_cases hk : k' = k
    · rw [hk, hni, Function.update_self] at hp
      cases hp
    · rw [hni, Function.update_of_ne hk] at hp
      exact ⟨hk, hp⟩
  have hcustody : v.Custody := by
    refine h.shift (by rw [hv]; rfl) (by rw [hv]; rfl) (fun k' p hp => Or.inl (hraw k' p hp).2)
      (fun x hx => by rwa [hh] at hx) ?_ hlog hquiet ?_ ?_
    · intro m k' timeout r hk
      rw [hh] at hk
      refine ⟨hk, fun hnone => ?_⟩
      by_cases hkk : k' = k
      · rw [hkk, hni, Function.update_self]
      · rw [hni, Function.update_of_ne hkk, hnone]
    · intro p
      have ho : v.owned p k = 0 := owned_of_none (by rw [hni, Function.update_self])
      have hs : s.owned p k = if (s.ni k).rawRequest = some p then 1 else 0 := by
        by_cases hnull : s.handler = .resetNull k
        · rw [owned_of_none (hspared hnull), hspared hnull]
          rfl
        · exact owned_of_raw hnull
      have hother : v.owned p k.other = s.owned p k.other := by
        apply owned_congr
        · rw [hni, Function.update_of_ne k.other_ne]
        · rw [hh]
      rw [hcount, held_split k, held_split k, ho, hs, hother, hh]
      omega
    · intro k' p hk hp
      rw [hh] at hk
      rw [settled_append hlog]
      exact Nat.le_add_right_of_le (h.cleared k' p hk (hraw k' p hp).2)
  rw [heq, ← hv]
  refine hcustody.setThread ?_ ?_ ?_
  · rw [show v.requests = s.requests by rw [hv]; rfl]
    exact h.threads n _ ht
  · intro k' hk
    rw [hh] at hk
    obtain ⟨-, hnone, -⟩ := h.creating n k' hk
    rw [ht] at hnone
    cases hnone
  · intro k' hk
    obtain ⟨hne, hp⟩ := hraw k' n hk
    exact absurd (h.awaited k' n hp _ ht).1.symm hne

theorem bystander (h : s.Custody) (hreq : u.requests = s.requests) (ht : u.thread = s.thread)
    (hraw : ∀ k, (u.ni k).rawRequest = (s.ni k).rawRequest) (hh : u.handler = s.handler)
    (hlog : u.log = s.log ++ l) (hrs : ∀ r ∈ l, r.idle = true) : u.Custody :=
  h.congr hreq hraw (Or.inl hh) (same_threads ht) hlog hrs

theorem runRespond (h : s.Custody) {i : Nat} (hu : s.runRespond i = some u) : u.Custody := by
  have hgoto : ∀ c, (s.setCall i c).Custody :=
    fun c => h.bystander (l := []) rfl rfl (fun _ => rfl) rfl (by simp; rfl) (by simp)
  have hwrite : ∀ k x c, x.rawRequest = (s.ni k).rawRequest →
      ((s.setSession k x).setCall i c).Custody := fun k x c hx =>
    h.bystander (l := []) rfl rfl (setSession_keeps Session.rawRequest hx) rfl (by simp; rfl)
      (by simp)
  cases hc : s.call i with
  | none => simp [State.runRespond, hc] at hu
  | some c =>
    obtain ⟨notifId, userResponse, stage⟩ := c
    cases stage <;> simp only [State.runRespond, hc, Option.some.injEq] at hu
    case readEsId => split_ifs at hu <;> cases hu <;> exact hgoto _
    case readEsRequest => split_ifs at hu <;> cases hu <;> exact hgoto _
    case readIgnored => split_ifs at hu <;> cases hu <;> exact hgoto _
    case ignore =>
      rw [← hu]
      exact hwrite _ _ _ rfl
    case readId => split_ifs at hu <;> cases hu <;> exact hgoto _
    case readRequest => split_ifs at hu <;> cases hu <;> exact hgoto _
    case write k =>
      rw [← hu]
      exact hwrite _ _ _ rfl

theorem goOn (h : s.Custody) {stage stage' : ThreadStage} (ht : s.thread n = some ⟨k, stage⟩)
    (hstage : stage.looping = true → stage'.looping = true) {v : State} (hv : v.Custody)
    (hvr : v.requests = s.requests) (hvh : v.handler = s.handler)
    (hvni : ∀ k, (v.ni k).rawRequest = (s.ni k).rawRequest) :
    (v.setThread n ⟨k, stage'⟩).Custody := by
  refine hv.setThread ?_ ?_ ?_
  · rw [hvr]
    exact h.threads n _ ht
  · intro k' hk
    rw [hvh] at hk
    obtain ⟨-, hnone, -⟩ := h.creating n k' hk
    rw [ht] at hnone
    cases hnone
  · intro k' hk
    rw [hvni] at hk
    obtain ⟨h1, h2⟩ := h.awaited k' n hk _ ht
    exact ⟨h1, hstage h2⟩

theorem runThread (h : s.Custody) (hspared : s.spared (.thread n) = true)
    (hu : s.runThread n = some u) : u.Custody := by
  have hnote : ∀ r, r.idle = true → (s.note r).Custody := fun r hr =>
    h.bystander (l := [r]) rfl rfl (fun _ => rfl) rfl rfl (by simpa using hr)
  have hwrite : ∀ k x, x.rawRequest = (s.ni k).rawRequest → (s.setSession k x).Custody :=
    fun k x hx => h.bystander (l := []) rfl rfl (setSession_keeps Session.rawRequest hx) rfl
      (by simp; rfl) (by simp)
  cases ht : s.thread n with
  | none => simp [State.runThread, ht] at hu
  | some t =>
    obtain ⟨k, stage⟩ := t
    have hnull : stage.looping = true → (s.ni k).respRecvd = true →
        s.handler = .resetNull k → (s.ni k).rawRequest = none := by
      intro hl hrecvd hh
      cases stage <;> first
        | simpa [spared, leaves, ht, hrecvd, hh] using hspared
        | cases hl
    cases stage <;> simp only [State.runThread, ht, Option.some.injEq, reduceCtorEq] at hu
    case created =>
      rw [← hu]
      have hstarted := hnote (.started n s.now) rfl
      split_ifs with hrecvd
      · exact hstarted.leave ht (hnull rfl hrecvd) false
      · exact h.goOn ht (fun _ => rfl) hstarted rfl rfl (fun _ => rfl)
    case waiting =>
      rw [← hu]
      split_ifs with hrecvd
      · exact h.leave ht (hnull rfl hrecvd) false
      · exact h
    case clearTime msg =>
      rw [← hu]
      exact h.goOn ht (by simp [ThreadStage.looping]) (hwrite _ _ rfl) rfl rfl
        (setSession_keeps Session.rawRequest rfl)
    case clearId msg =>
      rw [← hu]
      exact h.goOn ht (by simp [ThreadStage.looping]) (hwrite _ _ rfl) rfl rfl
        (setSession_keeps Session.rawRequest rfl)
    case sendMsg msg =>
      rw [← hu]
      cases msg with
      | none => exact h.goOn ht (by simp [ThreadStage.looping]) h rfl rfl (fun _ => rfl)
      | some msg =>
        exact h.goOn ht (by simp [ThreadStage.looping]) (hnote (.sent n msg) rfl) rfl rfl
          (fun _ => rfl)

theorem timeout (h : s.Custody) (hspared : s.spared (.timeout n) = true) (hu : s.timeout n = some u) :
    u.Custody := by
  unfold State.timeout at hu
  split at hu
  case h_1 k expireTime ht =>
    split_ifs at hu with hexpired
    obtain rfl := Option.some.inj hu
    have hresp : (s.setSession k { s.ni k with resp := some .noresp }).Custody :=
      h.bystander (l := []) rfl rfl (setSession_keeps Session.rawRequest rfl) rfl (by simp; rfl)
        (by simp)
    refine hresp.leave ht (fun hh => ?_) true
    rw [setSession_same]
    have hh' : s.handler = .resetNull k := hh
    simpa [spared, leaves, ht, hexpired, hh'] using hspared
  case h_2 => cases hu

theorem step (h : s.Custody) (hspared : s.spared e = true) (hu : s.step e = some u) :
    u.Custody := by
  cases e with
  | clock now =>
    simp only [State.step, Option.ite_none_right_eq_some, Option.some.injEq] at hu
    obtain ⟨-, rfl⟩ := hu
    exact h.bystander (l := []) rfl rfl (fun _ => rfl) rfl (by simp) (by simp)
  | request isEs timeout passThrough =>
    obtain ⟨hidle, ⟨-, hr⟩ | ⟨hb, r, hr, hs⟩⟩ := request_cases hu
    · exact h.reject hidle passThrough hr
    · refine h.letIn hidle ?_ hr hs
      cases isEs <;> simp [busy] at hb
      · exact hb.1
      · exact hb
  | reset =>
    simp only [State.step, State.reset, Option.ite_none_right_eq_some, Option.some.injEq] at hu
    obtain ⟨hidle, rfl⟩ := hu
    exact h.proceed (l := []) rfl rfl (fun _ => rfl) (by rw [hidle]; rfl) rfl
      (by intro x hx; cases hx) (by simp) (by simp)
  | handler createOk => exact h.runHandler hu
  | respond notifId userResponse =>
    obtain rfl := Option.some.inj hu
    exact h.bystander (l := [.responded notifId userResponse]) rfl rfl (fun _ => rfl) rfl rfl
      (by simp; rfl)
  | respondCall i => exact h.runRespond hu
  | thread n => exact h.runThread hspared hu
  | timeout n => exact h.timeout hspared hu

end Custody

namespace Delivered

variable {s u : State}

theorem congr (h : s.Delivered) (hpending : ∀ n, u.pending n = s.pending n)
    (hlog : u.log = s.log ++ l) (hrs : ∀ n msg, .informed n msg ∉ l ∧ .sent n msg ∉ l) :
    u.Delivered := by
  intro n msg
  rw [hlog, List.count_append, List.count_append, hpending,
    List.count_eq_zero.mpr (hrs n msg).1, List.count_eq_zero.mpr (hrs n msg).2]
  exact h n msg

theorem same (h : s.Delivered) (ht : u.thread = s.thread) (hlog : u.log = s.log ++ l)
    (hrs : ∀ n msg, .informed n msg ∉ l ∧ .sent n msg ∉ l) : u.Delivered :=
  h.congr (fun n => by rw [pending, pending, ht]) hlog hrs

theorem pending_setThread (n m : Nat) (t : NiThread) :
    (s.setThread n t).pending m = if m = n then t.stage.pending else s.pending m := by
  by_cases hm : m = n
  · rw [pending, hm, setThread_same, if_pos rfl]
    rfl
  · rw [pending, setThread_ne _ hm, if_neg hm, pending]

theorem setThread (h : s.Delivered) {t : NiThread} (ht : t.stage.pending = s.pending n) :
    (s.setThread n t).Delivered := by
  refine h.congr (l := []) (fun m => ?_) (List.append_nil _).symm (by simp)
  rw [pending_setThread]
  split_ifs with hm
  · rw [ht, hm]
  · rfl

theorem leave (h : s.Delivered) (ht : s.pending n = none) (timedOut : Bool) :
    (s.leave n k timedOut).Delivered := by
  obtain ⟨rs, msg, heq, hrs⟩ := leave_cases n k timedOut s
  have hcount : ∀ m msg', rs.count (.sent m msg') = 0 ∧
      rs.count (.informed m msg') = if m = n ∧ msg = some msg' then 1 else 0 := by
    intro m msg'
    rcases hrs with ⟨-, rfl, rfl⟩ | ⟨p, -, ⟨-, rfl, rfl⟩ | ⟨-, rfl, rfl⟩⟩
    · simp
    · refine ⟨by simp, ?_⟩
      by_cases hm : n = m
      · subst hm
        simp [List.count_singleton]
      · simp [hm, Ne.symm hm]
    · simp
  intro m msg'
  have hm := h m msg'
  rw [heq, pending_setThread]
  show (s.log ++ Record.left n timedOut s.now :: rs).count _ =
    (s.log ++ Record.left n timedOut s.now :: rs).count _ + _
  rw [List.count_append, List.count_append, List.count_cons_of_ne (by simp),
    List.count_cons_of_ne (by simp), (hcount m msg').1, (hcount m msg').2, hm]
  by_cases hmn : m = n
  · subst hmn
    simp [ht, ThreadStage.pending]
  · simp [hmn]
    rfl

theorem runHandler (h : s.Delivered) (hc : s.Custody) {createOk : Bool}
    (hu : s.runHandler createOk = some u) : u.Delivered := by
  cases hs : s.handler <;> simp only [State.runHandler, hs, Option.some.injEq, reduceCtorEq] at hu
  case number n k timeout =>
    exact h.same (l := [.numbered n (s.reqIDCounter + 1)]) (by rw [← hu]; rfl)
      (by rw [← hu]; rfl) (by simp)
  case create n k id =>
    obtain ⟨-, hnone, -⟩ := hc.creating n k (by rw [hs]; rfl)
    have hnotify : ({ s with handler := .notify n id } : State).Delivered :=
      h.same (l := []) rfl (List.append_nil _).symm (by simp)
    cases createOk with
    | false =>
      rw [← hu]
      exact hnotify
    | true =>
      rw [← hu]
      refine hnotify.setThread ?_
      rw [pending, show ({ s with handler := .notify n id } : State).thread n = none from hnone]
      rfl
  case notify n id =>
    exact h.same (l := [.notified n id]) (by rw [← hu]; rfl) (by rw [← hu]; rfl) (by simp)
  case resetFree k =>
    refine h.same (l := ((s.ni k).rawRequest.map (Record.freed · none)).toList) ?_ ?_ ?_
    · rw [← hu]
      cases (s.ni k).rawRequest <;> rfl
    · rw [← hu]
      cases hr : (s.ni k).rawRequest <;> simp [note]
    · cases (s.ni k).rawRequest <;> simp
  all_goals
    cases hu
    exact h.same (l := []) rfl (List.append_nil _).symm (by simp)

theorem runThread (h : s.Delivered) (hu : s.runThread n = some u) : u.Delivered := by
  cases ht : s.thread n with
  | none => simp [State.runThread, ht] at hu
  | some t =>
    obtain ⟨k, stage⟩ := t
    have hpending : s.pending n = stage.pending := by
      rw [pending, ht]
      rfl
    cases stage <;> simp only [State.runThread, ht, Option.some.injEq, reduceCtorEq] at hu
    case created =>
      have hstarted : (s.note (.started n s.now)).Delivered :=
        h.same (l := [.started n s.now]) rfl rfl (by simp)
      rw [← hu]
      split_ifs
      · exact hstarted.leave hpending false
      · exact hstarted.setThread hpending.symm
    case waiting =>
      rw [← hu]
      split_ifs
      · exact h.leave hpending false
      · exact h
    case clearTime msg =>
      rw [← hu]
      have hw : (s.setSession k { s.ni k with respTimeLeft := 0 }).Delivered :=
        h.same (l := []) rfl (List.append_nil _).symm (by simp)
      exact hw.setThread hpending.symm
    case clearId msg =>
      rw [← hu]
      have hw : (s.setSession k { s.ni k with reqID := 0 }).Delivered :=
        h.same (l := []) rfl (List.append_nil _).symm (by simp)
      exact hw.setThread hpending.symm
    case sendMsg msg =>
      rw [← hu]
      cases msg with
      | none => exact h.setThread hpending.symm
      | some msg =>
        intro m msg'
        have hm := h m msg'
        rw [pending_setThread]
        show (s.log ++ [Record.sent n msg]).count _ = (s.log ++ [Record.sent n msg]).count _ + _
        rw [List.count_append, List.count_append, hm]
        by_cases hmn : m = n
        · subst hmn
          rw [hpending]
          by_cases heq : msg = msg'
          · simp [ThreadStage.pending, heq]
          · simp [ThreadStage.pending, heq]
        · simp [hmn, Ne.symm hmn]
          rfl

theorem step (h : s.Delivered) (hc : s.Custody) (hu : s.step e = some u) : u.Delivered := by
  cases e with
  | clock now =>
    simp only [State.step, Option.ite_none_right_eq_some, Option.some.injEq] at hu
    obtain ⟨-, rfl⟩ := hu
    exact h.same (l := []) rfl (by simp) (by simp)
  | request isEs timeout passThrough =>
    obtain ⟨-, ⟨-, hr⟩ | ⟨-, r, -, hs⟩⟩ := request_cases hu
    · refine h.same (by rw [hr]) (by rw [hr]) ?_
      cases passThrough <;> simp
    · exact h.same (by rw [hs]) (by rw [hs]) (by simp)
  | reset =>
    simp only [State.step, State.reset, Option.ite_none_right_eq_some, Option.some.injEq] at hu
    obtain ⟨-, rfl⟩ := hu
    exact h.same (l := []) rfl (by simp) (by simp)
  | handler createOk => exact h.runHandler hc hu
  | respond notifId userResponse =>
    obtain rfl := Option.some.inj hu
    exact h.same (l := [.responded notifId userResponse]) rfl rfl (by simp)
  | respondCall i =>
    obtain ⟨ht, hlog⟩ := runRespond_frame hu
    exact h.same (l := []) ht (by simp [hlog]) (by simp)
  | thread n => exact h.runThread hu
  | timeout n =>
    simp only [State.step, State.timeout] at hu
    split at hu
    case h_1 k expireTime ht =>
      split_ifs at hu
      obtain rfl := Option.some.inj hu
      have hresp : (s.setSession k { s.ni k with resp := some .noresp }).Delivered :=
        h.same (l := []) rfl (List.append_nil _).symm (by simp)
      refine hresp.leave ?_ true
      rw [pending, show (s.setSession k _).thread n = _ from ht]
      rfl
    case h_2 => cases hu

end Delivered

variable {s u : State}

theorem Custody.owned (h : s.Custody) (hd : s.Delivered) : s.Owned where
  accepted n k timeout p hr := by
    obtain rfl := h.own _ hr n k timeout p (Or.inl rfl)
    have hbrought : 1 ≤ s.brought p :=
      List.countP_pos_iff.mpr ⟨_, hr, by simp [Record.brings]⟩
    have hone := h.once p
    have hbalance := h.balance p
    refine ⟨by split_ifs at hone <;> omega, ?_⟩
    rintro ⟨k', hended⟩
    have hheld : s.held p = 0 := by
      refine h.held_none (fun k'' hk => ?_) (fun k'' timeout' r hk => ?_)
      · exact absurd (h.awaited k'' p hk _ hended).2 (by simp [ThreadStage.looping])
      · obtain ⟨-, hnone, -⟩ := h.creating p k'' (by rw [hk]; rfl)
        rw [hended] at hnone
        cases hnone
    split_ifs at hone <;> omega
  rejected n p hr := by
    obtain rfl := h.own _ hr n .session 0 p (Or.inr rfl)
    obtain ⟨-, h2, h3, h4⟩ := h.turned p _ hr
    have hbrought : 1 ≤ s.brought p :=
      List.countP_pos_iff.mpr ⟨_, hr, by simp [Record.brings]⟩
    have hone := h.once p
    have hbalance := h.balance p
    rw [h.held_none h3 h4] at hbalance
    unfold settled at hbalance
    exact ⟨by split_ifs at hone <;> omega, h2, h3⟩
  sent n msg := by
    have hm := hd n msg
    refine ⟨by omega, ?_⟩
    rintro ⟨k, hended⟩
    have hnone : s.pending n = none := by
      rw [pending, hended]
      rfl
    rw [hnone] at hm
    exact hm.symm

theorem leave_settled (n : Nat) (k : SessionKind) (timedOut : Bool) (s : State) (p : Nat) :
    (s.leave n k timedOut).settled p =
      s.settled p + if (s.ni k).rawRequest = some p then 1 else 0 := by
  obtain ⟨rs, msg, heq, hrs⟩ := leave_cases n k timedOut s
  have hlog : (s.leave n k timedOut).log = s.log ++ Record.left n timedOut s.now :: rs := by
    rw [heq]
    rfl
  rw [settled_append hlog]
  rcases hrs with ⟨hr, rfl, -⟩ | ⟨q, hr, ⟨-, rfl, -⟩ | ⟨-, rfl, -⟩⟩
  · simp [hr, Record.forwards, Record.frees]
  · simp [hr, Record.forwards, Record.frees, List.countP_cons]
  · simp [hr, Record.forwards, Record.frees, List.countP_cons]

theorem leaves_settled {p : Nat} (hl : s.leaves e = some k) (hr : (s.ni k).rawRequest = some p)
    (hu : s.step e = some u) : u.settled p = s.settled p + 1 := by
  cases e with
  | thread n =>
    simp only [State.step] at hu
    cases ht : s.thread n with
    | none => simp [leaves, ht] at hl
    | some t =>
      obtain ⟨k', stage⟩ := t
      cases stage <;> simp [leaves, ht] at hl
      case created =>
        obtain ⟨hrecvd, rfl⟩ := hl
        simp only [runThread, ht, Option.some.injEq] at hu
        rw [show ((s.note (.started n s.now)).ni k').respRecvd = true from hrecvd] at hu
        rw [← hu, if_pos rfl, leave_settled, settled_append (s := s) (l := [.started n s.now]) rfl]
        simp [note, hr, Record.forwards, Record.frees]
      case waiting =>
        obtain ⟨hrecvd, rfl⟩ := hl
        simp only [runThread, ht, Option.some.injEq] at hu
        rw [← hu, if_pos hrecvd, leave_settled, if_pos hr]
  | timeout n =>
    simp only [State.step, timeout] at hu
    simp only [leaves] at hl
    split at hu
    case h_1 k' expireTime ht =>
      simp only [ht, Option.ite_none_right_eq_some, Option.some.injEq] at hl
      obtain ⟨hexpired, rfl⟩ := hl
      simp only [hexpired, if_true, Option.some.injEq] at hu
      rw [← hu, leave_settled, setSession_same, if_pos hr]
      rfl
    case h_2 => cases hu
  | _ => cases hl

theorem Custody.spared_of_owned (h : s.Custody) (hu : s.step e = some u) (howned : u.Owned) :
    s.spared e = true := by
  unfold spared
  cases hl : s.leaves e with
  | none => rfl
  | some k =>
    cases hr : (s.ni k).rawRequest with
    | none => simp [hr]
    | some p =>
      by_contra hne
      have hnull : s.handler = .resetNull k := by simpa [hr] using hne
      have htwice := leaves_settled hl hr hu
      have hfreed := h.cleared k p hnull hr
      obtain ⟨r, hmem, hbrings⟩ := List.countP_pos_iff.mp (h.brought_pos hr)
      obtain ⟨rs, hlog⟩ := step_log hu
      cases r with
      | stored n k' timeout r =>
        obtain rfl : r = some p := by simpa [Record.brings] using hbrings
        have := (howned.accepted n k' timeout p (by simp [hlog, hmem])).1
        omega
      | rejected n r =>
        obtain rfl : r = some p := by simpa [Record.brings] using hbrings
        obtain rfl := h.own _ hmem n k 0 p (Or.inr rfl)
        exact (h.turned p _ hmem).2.2.1 k hr
      | _ => cases hbrings

theorem payload_owned_iff (now : Int) (es : List Event) (s : State)
    (h : Runs.play step (init now) es = some s) :
    Runs.Along step (fun s e => s.spared e = true) (init now) es ↔
      ∀ pre post, es = pre ++ post → ∀ u, Runs.play step (init now) pre = some u → u.Owned :=
  Runs.along_iff_prefixes (I := fun s => s.Custody ∧ s.Delivered) (R := fun _ _ => True)
    (fun _ _ _ hs _ hp hu => ⟨hs.1.step hp hu, hs.2.step hs.1 hu⟩)
    (fun _ hs => hs.1.owned hs.2) (fun _ _ _ hs _ hu ho => hs.1.spared_of_owned hu ho)
    ⟨Custody.init now, fun _ _ => rfl⟩ (Runs.Along.of_forall (fun _ _ _ => trivial) _) h

def sessionStarts : List Event :=
  .request false 10 true :: List.replicate 6 (.handler true) ++ [.thread 0]

def resetAgainstResponse : List Event :=
  sessionStarts ++ [.respond 1 .accept, .respondCall 0, .respondCall 0, .respondCall 0, .respondCall 0,
    .reset, .handler true, .handler true, .handler true, .thread 0]

theorem payload_owned_iff_response : ∃ s, Runs.play step (init 0) resetAgainstResponse = some s ∧
    (Runs.Along step (fun s e => s.spared e = true) (init 0) resetAgainstResponse ↔
      ∀ pre post, resetAgainstResponse = pre ++ post → ∀ u,
        Runs.play step (init 0) pre = some u → u.Owned) :=
  ⟨_, rfl, payload_owned_iff 0 resetAgainstResponse _ rfl⟩

theorem freed_payload_forwarded : ¬ ∀ (now : Int) (es : List Event) (s : State),
    Runs.play step (init now) es = some s → s.Owned := by
  intro h
  have howned := h 0 resetAgainstResponse _ rfl
  have honce := (howned.accepted 0 .session 10 0 (by decide)).1
  exact absurd honce (by decide)

end State

end Wt88047.Ni
