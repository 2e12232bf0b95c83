import Wt88047.Gps.NiPayload
import Mathlib.Tactic.ByContra
import Mathlib.Tactic.SplitIfs

/-! Whose response answers a network initiated request. -/

namespace Wt88047.Ni

def Told (n : Nat) (r : GpsUserResponseType) (log : List Record) : Prop :=
  ∃ id, .numbered n id ∈ log ∧ .responded id r ∈ log

/-- The user accepted an emergency request that came after request `n`. -/
def Ignored (n : Nat) (log : List Record) : Prop :=
  ∃ m timeout r id, n < m ∧ .stored m .sessionEs timeout r ∈ log ∧ .numbered m id ∈ log ∧
    .responded id .accept ∈ log

/-- At `time` the thread of request `n` had waited as long as that request asks for. -/
def TimedOut (n : Nat) (time : Int) (log : List Record) : Prop :=
  ∃ k timeout r start, .stored n k timeout r ∈ log ∧ .started n start ∈ log ∧
    .left n true time ∈ log ∧ start + State.respTime timeout ≤ time

/-- The message is for request `n` and carries the user's response to it, or NORESP after its
timeout. -/
def Answers (n : Nat) (msg : InformNiResponse) (log : List Record) : Prop :=
  msg.mPayload = n ∧ ((∃ r, msg.mResponse = some r ∧ Told n r log) ∨
    msg.mResponse = some .noresp ∧ ∃ time, TimedOut n time log)

def Record.Fits (log : List Record) : Record → Prop
  | .informed n msg | .sent n msg => Answers n msg log
  | .left n false _ => (∃ r, Told n r log) ∨ Ignored n log ∨ .freed n none ∈ log
  | .left n true time => TimedOut n time log
  | .freed p (some n) => p = n ∧ (Told n .ignore log ∨ Ignored n log)
  | .notified n id => .numbered n id ∈ log
  | .freed _ none | .stored .. | .rejected .. | .numbered .. | .responded .. | .started .. => True

/-- Every message, every end of a session and every payload that a thread frees has its cause in
the request of that very session, and no two requests have the same number. -/
structure Faithful (log : List Record) : Prop where
  fits : ∀ r ∈ log, r.Fits log
  numbers : ∀ n m id id', .numbered n id ∈ log → .numbered m id' ∈ log → (n = m ↔ id = id')

section Growth

variable {log log' : List Record} {n : Nat}

theorem Told.mono (hl : log ⊆ log') {r : GpsUserResponseType} (h : Told n r log) : Told n r log' := by
  obtain ⟨id, h1, h2⟩ := h
  exact ⟨id, hl h1, hl h2⟩

theorem Ignored.mono (hl : log ⊆ log') (h : Ignored n log) : Ignored n log' := by
  obtain ⟨m, timeout, r, id, hm, h1, h2, h3⟩ := h
  exact ⟨m, timeout, r, id, hm, hl h1, hl h2, hl h3⟩

theorem TimedOut.mono (hl : log ⊆ log') {time : Int} (h : TimedOut n time log) :
    TimedOut n time log' := by
  obtain ⟨k, timeout, r, start, h1, h2, h3, ht⟩ := h
  exact ⟨k, timeout, r, start, hl h1, hl h2, hl h3, ht⟩

theorem Answers.mono (hl : log ⊆ log') {msg : InformNiResponse} (h : Answers n msg log) :
    Answers n msg log' := by
  obtain ⟨hp, ⟨r, hr, ht⟩ | ⟨hr, time, ht⟩⟩ := h
  · exact ⟨hp, Or.inl ⟨r, hr, ht.mono hl⟩⟩
  · exact ⟨hp, Or.inr ⟨hr, time, ht.mono hl⟩⟩

theorem Record.Fits.mono (hl : log ⊆ log') {r : Record} (h : r.Fits log) : r.Fits log' := by
  cases r with
  | informed n msg => exact Answers.mono hl h
  | sent n msg => exact Answers.mono hl h
  | left n timedOut time =>
    cases timedOut with
    | false =>
      rcases h with ⟨r, h⟩ | h | h
      · exact Or.inl ⟨r, h.mono hl⟩
      · exact Or.inr (Or.inl (h.mono hl))
      · exact Or.inr (Or.inr (hl h))
    | true => exact TimedOut.mono hl h
  | freed p thread =>
    cases thread with
    | none => trivial
    | some n => exact ⟨h.1, h.2.imp (Told.mono hl) (Ignored.mono hl)⟩
  | notified n id => exact hl h
  | stored | rejected | numbered | responded | started => trivial

theorem Faithful.note (h : Faithful log) {r : Record} (hr : r.Fits (log ++ [r]))
    (hnumber : ∀ n id, r ≠ .numbered n id) : Faithful (log ++ [r]) where
  fits r' hr' := by
    rcases List.mem_append.mp hr' with hr' | hr'
    · exact (h.fits r' hr').mono (List.subset_append_left ..)
    · obtain rfl := List.mem_singleton.mp hr'
      exact hr
  numbers n m id id' h1 h2 := by
    have hold : ∀ n id, .numbered n id ∈ log ++ [r] → .numbered n id ∈ log := by
      intro n id hm
      rcases List.mem_append.mp hm with hm | hm
      · exact hm
      · exact absurd (List.mem_singleton.mp hm).symm (hnumber n id)
    exact h.numbers n m id id' (hold _ _ h1) (hold _ _ h2)

end Growth

def ThreadStage.writes : ThreadStage → Bool
  | .created | .waiting _ | .clearTime _ | .clearId _ => true
  | .sendMsg _ | .ended => false

def RespondStage.writes (k : SessionKind) : RespondStage → Bool
  | .readEsId | .readId => false
  | .readEsRequest => k = .sessionEs
  | .readIgnored | .ignore => true
  | .readRequest => k = .session
  | .write k' => k = k'

namespace State

/-- The record is as `loc_eng_ni_init` leaves it, and nobody is going to write to it. -/
def Vacated (s : State) (k : SessionKind) : Prop :=
  (s.ni k).respRecvd = false ∧ (s.ni k).reqID = 0 ∧
    (∀ n < s.requests, ∀ t ∈ s.thread n, t.pSession = k → t.stage.writes = false) ∧
    ∀ i < s.calls, ∀ c ∈ s.call i, c.stage.writes k = false

/-- A request is let in only when its record is vacated, and no call passes with the number 0,
which a record has while it has none. -/
def Separate (s : State) : Event → Prop
  | .request isEs _ _ => s.busy isEs = true ∨ s.Vacated (kindOf isEs)
  | .respondCall i => ∀ c ∈ s.call i, c.notifId = 0 →
    (c.stage = .readEsRequest → (s.ni .sessionEs).rawRequest = none) ∧
      (c.stage = .readRequest → (s.ni .session).rawRequest = none)
  | .clock _ | .reset | .handler _ | .respond .. | .thread _ | .timeout _ => True

instance (s : State) (k : SessionKind) : Decidable (s.Vacated k) :=
  inferInstanceAs (Decidable (_ ∧ _ ∧ _ ∧ _))

instance (s : State) : (e : Event) → Decidable (s.Separate e)
  | .request .. => inferInstanceAs (Decidable (_ ∨ _))
  | .respondCall i => inferInstanceAs (Decidable (∀ c ∈ s.call i, c.notifId = 0 →
    (c.stage = .readEsRequest → (s.ni .sessionEs).rawRequest = none) ∧
      (c.stage = .readRequest → (s.ni .session).rawRequest = none)))
  | .clock _ | .reset | .handler _ | .respond .. | .thread _ | .timeout _ => isTrue trivial

def InLoop (s : State) (n : Nat) : Prop := ∀ t, s.thread n = some t → t.stage.looping = true

end State

abbrev Current := SessionKind → Option (Nat × Int)

def Named (cur : Current) (log : List Record) (k : SessionKind) (id : Int) : Prop :=
  ∃ n timeout, cur k = some (n, timeout) ∧ .numbered n id ∈ log

def Caused (x : Session) (n : Nat) (log : List Record) : Prop :=
  (∃ r, x.resp = some r ∧ (Told n r log ∨ r = .ignore ∧ Ignored n log)) ∨
    x.rawRequest = none ∧ .freed n none ∈ log

def RespondCall.Ok (log : List Record) (cur : Current) (c : RespondCall) : Prop :=
  .responded c.notifId c.userResponse ∈ log ∧
    match c.stage with
    | .readEsId | .readId => True
    | .readEsRequest => c.notifId ≠ 0 → Named cur log .sessionEs c.notifId
    | .readIgnored | .ignore => c.userResponse = .accept ∧ Named cur log .sessionEs c.notifId ∧
      ∀ n m timeout timeout', cur .session = some (n, timeout) →
        cur .sessionEs = some (m, timeout') → n < m
    | .readRequest => c.notifId ≠ 0 → Named cur log .session c.notifId
    | .write k => Named cur log k c.notifId

section Growth

variable {log log' : List Record} {cur : Current}

theorem Named.mono (hl : log ⊆ log') {k : SessionKind} {id : Int}
    (h : Named cur log k id) : Named cur log' k id := by
  obtain ⟨n, timeout, h1, h2⟩ := h
  exact ⟨n, timeout, h1, hl h2⟩

theorem Caused.mono (hl : log ⊆ log') {x : Session} {n : Nat}
    (h : Caused x n log) : Caused x n log' := by
  rcases h with ⟨r, hr, h⟩ | ⟨hr, h⟩
  · exact Or.inl ⟨r, hr, h.imp (Told.mono hl) (And.imp_right (Ignored.mono hl))⟩
  · exact Or.inr ⟨hr, hl h⟩

theorem RespondCall.Ok.mono (hl : log ⊆ log') {c : RespondCall}
    (h : c.Ok log cur) : c.Ok log' cur := by
  obtain ⟨notifId, userResponse, stage⟩ := c
  obtain ⟨hr, h⟩ := h
  refine ⟨hl hr, ?_⟩
  cases stage with
  | readEsId | readId => trivial
  | readEsRequest | readRequest => exact fun hid => (h hid).mono hl
  | readIgnored | ignore => exact ⟨h.1, h.2.1.mono hl, h.2.2⟩
  | write k => exact Named.mono hl h

end Growth

namespace State

def ThreadOk (s : State) (cur : Current) (n : Nat) (t : NiThread) : Prop :=
  match t.stage with
  | .created => ∃ timeout, cur t.pSession = some (n, timeout) ∧
    (s.ni t.pSession).respTimeLeft = respTime timeout
  | .waiting expireTime => ∃ timeout start, cur t.pSession = some (n, timeout) ∧
    .started n start ∈ s.log ∧ expireTime = start + respTime timeout
  | .clearTime msg | .clearId msg => (∃ timeout, cur t.pSession = some (n, timeout)) ∧
    ∀ m ∈ msg, Answers n m s.log
  | .sendMsg msg => ∀ m ∈ msg, Answers n m s.log
  | .ended => True

def HandlerOk (s : State) (cur : Current) : HandlerStage → Prop
  | .store n k timeout r => cur k = some (n, timeout) ∧ s.thread n = none ∧
    (∀ id, .numbered n id ∉ s.log) ∧ s.requests = n + 1 ∧ (r = none ∨ r = some n) ∧
    (s.ni k).respRecvd = false
  | .number n k timeout => cur k = some (n, timeout) ∧ s.thread n = none ∧
    ∀ id, .numbered n id ∉ s.log
  | .fill n k timeout => cur k = some (n, timeout) ∧ s.thread n = none ∧
    .numbered n (s.ni k).reqID ∈ s.log
  | .setTime n k timeout id => cur k = some (n, timeout) ∧ s.thread n = none ∧
    .numbered n id ∈ s.log
  | .create n k id => s.thread n = none ∧ .numbered n id ∈ s.log ∧
    ∃ timeout, cur k = some (n, timeout) ∧ (s.ni k).respTimeLeft = respTime timeout
  | .notify n id => .numbered n id ∈ s.log
  | .resetFree k => ∀ n timeout, cur k = some (n, timeout) → s.InLoop n →
    (s.ni k).rawRequest = some n
  | .resetNull k => ∀ n timeout, cur k = some (n, timeout) → s.InLoop n → .freed n none ∈ s.log
  | .resetMark k => (s.ni k).rawRequest = none ∧
    ∀ n timeout, cur k = some (n, timeout) → s.InLoop n → .freed n none ∈ s.log
  | .idle | .resetCheck _ => True

structure Protocol (s : State) (cur : Current) : Prop where
  faithful : Faithful s.log
  counter : 0 ≤ s.reqIDCounter
  counted : ∀ n id, .numbered n id ∈ s.log → 0 < id ∧ id ≤ s.reqIDCounter ∧ n < s.requests
  current : ∀ k n timeout, cur k = some (n, timeout) →
    n < s.requests ∧ ∃ r, .stored n k timeout r ∈ s.log
  distinct : ∀ n timeout timeout', cur .session = some (n, timeout) →
    cur .sessionEs ≠ some (n, timeout')
  raw : ∀ k p, (s.ni k).rawRequest = some p → ∃ timeout, cur k = some (p, timeout)
  older : ∀ m, (s.ni .sessionEs).rawRequest = some m →
    ∀ n timeout, cur .session = some (n, timeout) → n < m
  named : ∀ k, (s.ni k).reqID ≠ 0 → Named cur s.log k (s.ni k).reqID
  recvd : ∀ k n timeout, (s.ni k).respRecvd = true → cur k = some (n, timeout) → s.InLoop n →
    Caused (s.ni k) n s.log
  handler : s.HandlerOk cur s.handler
  calls : ∀ i c, s.call i = some c → i < s.calls ∧ c.Ok s.log cur
  threads : ∀ n t, s.thread n = some t → n < s.requests ∧ s.ThreadOk cur n t

section Frames

variable {s : State} {cur : Current}

theorem ThreadOk.note (r : Record) {n : Nat} {t : NiThread} (h : s.ThreadOk cur n t) :
    (s.note r).ThreadOk cur n t := by
  have hl : s.log ⊆ (s.note r).log := List.subset_append_left ..
  obtain ⟨k, stage⟩ := t
  cases stage with
  | created => exact h
  | waiting e =>
    obtain ⟨timeout, start, h1, h2, h3⟩ := h
    exact ⟨timeout, start, h1, hl h2, h3⟩
  | clearTime msg | clearId msg => exact ⟨h.1, fun m hm => (h.2 m hm).mono hl⟩
  | sendMsg msg => exact fun m hm => (h m hm).mono hl
  | ended => trivial

theorem HandlerOk.note {r : Record} (hnumber : ∀ n id, r ≠ .numbered n id) {stage : HandlerStage}
    (h : s.HandlerOk cur stage) : (s.note r).HandlerOk cur stage := by
  have hl : s.log ⊆ (s.note r).log := List.subset_append_left ..
  have hun : ∀ n, (∀ id, .numbered n id ∉ s.log) → ∀ id, .numbered n id ∉ (s.note r).log := by
    intro n hn id hm
    rcases List.mem_append.mp hm with hm | hm
    · exact hn id hm
    · exact hnumber n id (List.mem_singleton.mp hm).symm
  cases stage with
  | store n k timeout r => exact ⟨h.1, h.2.1, hun n h.2.2.1, h.2.2.2⟩
  | number n k timeout => exact ⟨h.1, h.2.1, hun n h.2.2⟩
  | fill n k timeout => exact ⟨h.1, h.2.1, hl h.2.2⟩
  | setTime n k timeout id => exact ⟨h.1, h.2.1, hl h.2.2⟩
  | create n k id => exact ⟨h.1, hl h.2.1, h.2.2⟩
  | notify n id => exact hl h
  | resetFree k => exact h
  | resetNull k => exact fun n timeout hc hn => hl (h n timeout hc hn)
  | resetMark k => exact ⟨h.1, fun n timeout hc hn => hl (h.2 n timeout hc hn)⟩
  | idle | resetCheck => trivial

theorem HandlerOk.creating {stage : HandlerStage} {n : Nat} {k : SessionKind}
    (h : s.HandlerOk cur stage) (hc : stage.creates = some (n, k)) :
    s.thread n = none ∧ ∃ timeout, cur k = some (n, timeout) := by
  cases stage with
  | store n' k' timeout r =>
    cases hc
    exact ⟨h.2.1, timeout, h.1⟩
  | number n' k' timeout =>
    cases hc
    exact ⟨h.2.1, timeout, h.1⟩
  | fill n' k' timeout =>
    cases hc
    exact ⟨h.2.1, timeout, h.1⟩
  | setTime n' k' timeout id =>
    cases hc
    exact ⟨h.2.1, timeout, h.1⟩
  | create n' k' id =>
    cases hc
    obtain ⟨h1, -, timeout, h2, -⟩ := h
    exact ⟨h1, timeout, h2⟩
  | _ => cases hc

theorem HandlerOk.setSession {k : SessionKind} {x : Session} {stage : HandlerStage}
    (h : s.HandlerOk cur stage)
    (hfields : (∀ n, stage.creates ≠ some (n, k)) ∨ x.reqID = (s.ni k).reqID ∧
      x.respTimeLeft = (s.ni k).respTimeLeft ∧ ∀ n timeout r, stage ≠ .store n k timeout r)
    (hraw : x.rawRequest = (s.ni k).rawRequest ∨ x.rawRequest = none ∧
      ∀ n timeout, cur k = some (n, timeout) → ¬ s.InLoop n) :
    (s.setSession k x).HandlerOk cur stage := by
  cases stage with
  | store n k' timeout r =>
    obtain ⟨h1, h2, h3, h4, h5, h6⟩ := h
    refine ⟨h1, h2, h3, h4, h5, ?_⟩
    by_cases hk : k' = k
    · subst hk
      rcases hfields with hf | ⟨-, -, hf⟩
      · exact absurd rfl (hf n)
      · exact absurd rfl (hf n timeout r)
    · rwa [setSession_ne x hk]
  | number n k' timeout => exact h
  | fill n k' timeout =>
    refine ⟨h.1, h.2.1, ?_⟩
    by_cases hk : k' = k
    · subst hk
      rcases hfields with hf | ⟨hf, -, -⟩
      · exact absurd rfl (hf n)
      · rw [setSession_same, hf]
        exact h.2.2
    · rw [setSession_ne x hk]
      exact h.2.2
  | setTime n k' timeout id => exact h
  | create n k' id =>
    obtain ⟨h1, h2, timeout, h3, h4⟩ := h
    refine ⟨h1, h2, timeout, h3, ?_⟩
    by_cases hk : k' = k
    · subst hk
      rcases hfields with hf | ⟨-, hf, -⟩
      · exact absurd rfl (hf n)
      · rw [setSession_same, hf, h4]
    · rw [setSession_ne x hk, h4]
  | notify n id => exact h
  | resetFree k' =>
    intro n timeout hc hn
    by_cases hk : k' = k
    · subst hk
      rcases hraw with hr | ⟨-, hr⟩
      · rw [setSession_same, hr]
        exact h n timeout hc hn
      · exact absurd hn (hr n timeout hc)
    · rw [setSession_ne x hk]
      exact h n timeout hc hn
  | resetNull k' => exact h
  | resetMark k' =>
    refine ⟨?_, h.2⟩
    by_cases hk : k' = k
    · subst hk
      rw [setSession_same]
      rcases hraw with hr | ⟨hr, -⟩
      · rw [hr, h.1]
      · exact hr
    · rw [setSession_ne x hk, h.1]
  | idle | resetCheck => trivial

namespace Protocol

theorem note (h : s.Protocol cur) {r : Record} (hr : r.Fits (s.log ++ [r]))
    (hnumber : ∀ n id, r ≠ .numbered n id) : (s.note r).Protocol cur := by
  have hl : s.log ⊆ (s.note r).log := List.subset_append_left ..
  constructor
  · exact h.faithful.note hr hnumber
  · exact h.counter
  · intro n id hm
    rcases List.mem_append.mp hm with hm | hm
    · exact h.counted n id hm
    · exact absurd (List.mem_singleton.mp hm).symm (hnumber n id)
  · intro k n timeout hc
    obtain ⟨h1, r', h2⟩ := h.current k n timeout hc
    exact ⟨h1, r', hl h2⟩
  · exact h.distinct
  · exact h.raw
  · exact h.older
  · exact fun k hk => (h.named k hk).mono hl
  · exact fun k n timeout hk hc hn => (h.recvd k n timeout hk hc hn).mono hl
  · exact h.handler.note hnumber
  · intro i c hc
    obtain ⟨h1, h2⟩ := h.calls i c hc
    exact ⟨h1, h2.mono hl⟩
  · intro n t ht
    obtain ⟨h1, h2⟩ := h.threads n t ht
    exact ⟨h1, h2.note r⟩

theorem setHandler (h : s.Protocol cur) (stage : HandlerStage) (hs : s.HandlerOk cur stage) :
    ({ s with handler := stage } : State).Protocol cur where
  faithful := h.faithful
  counter := h.counter
  counted := h.counted
  current := h.current
  distinct := h.distinct
  raw := h.raw
  older := h.older
  named := h.named
  recvd := h.recvd
  handler := by cases stage <;> exact hs
  calls := h.calls
  threads n t ht := h.threads n t ht

theorem setCall (h : s.Protocol cur) {i : Nat} {c : Option RespondCall} (hi : i < s.calls)
    (hc : ∀ c', c = some c' → c'.Ok s.log cur) : (s.setCall i c).Protocol cur where
  faithful := h.faithful
  counter := h.counter
  counted := h.counted
  current := h.current
  distinct := h.distinct
  raw := h.raw
  older := h.older
  named := h.named
  recvd := h.recvd
  handler := h.handler
  calls j c' hj := by
    by_cases hne : j = i
    · subst hne
      rw [setCall_same] at hj
      exact ⟨hi, hc c' hj⟩
    · rw [setCall_ne _ hne] at hj
      exact h.calls j c' hj
  threads := h.threads

theorem not_creating (h : s.Protocol cur) {n : Nat} {k : SessionKind} {timeout : Int}
    {t : NiThread} (hc : cur k = some (n, timeout)) (ht : s.thread n = some t) (m : Nat) :
    s.handler.creates ≠ some (m, k) := by
  intro hm
  obtain ⟨hnone, timeout', hcur⟩ := h.handler.creating hm
  rw [hc] at hcur
  obtain ⟨rfl, -⟩ := Prod.mk.inj (Option.some.inj hcur)
  rw [ht] at hnone
  cases hnone

theorem setThread (h : s.Protocol cur) {n : Nat} {t : NiThread} (hn : n < s.requests)
    (ht : s.ThreadOk cur n t) (hcreates : ∀ k, s.handler.creates ≠ some (n, k))
    (hloop : t.stage.looping = true → s.InLoop n) : (s.setThread n t).Protocol cur := by
  have hin : ∀ m, (s.setThread n t).InLoop m → s.InLoop m := by
    intro m hm
    by_cases hne : m = n
    · subst hne
      exact hloop (hm t (setThread_same ..))
    · intro t' ht'
      exact hm t' (by rw [setThread_ne _ hne, ht'])
  have hnone : ∀ m k, s.handler.creates = some (m, k) → s.thread m = none →
      (s.setThread n t).thread m = none := by
    intro m k hm hm'
    have hne : m ≠ n := by
      rintro rfl
      exact hcreates k hm
    rw [setThread_ne _ hne, hm']
  constructor
  · exact h.faithful
  · exact h.counter
  · exact h.counted
  · exact h.current
  · exact h.distinct
  · exact h.raw
  · exact h.older
  · exact h.named
  · exact fun k m timeout hk hc hm => h.recvd k m timeout hk hc (hin m hm)
  · have hh := h.handler
    show (s.setThread n t).HandlerOk cur s.handler
    cases hs : s.handler with
    | store m k timeout r =>
      rw [hs] at hh hnone
      exact ⟨hh.1, hnone m k rfl hh.2.1, hh.2.2⟩
    | number m k timeout =>
      rw [hs] at hh hnone
      exact ⟨hh.1, hnone m k rfl hh.2.1, hh.2.2⟩
    | fill m k timeout =>
      rw [hs] at hh hnone
      exact ⟨hh.1, hnone m k rfl hh.2.1, hh.2.2⟩
    | setTime m k timeout id =>
      rw [hs] at hh hnone
      exact ⟨hh.1, hnone m k rfl hh.2.1, hh.2.2⟩
    | create m k id =>
      rw [hs] at hh hnone
      exact ⟨hnone m k rfl hh.1, hh.2⟩
    | notify m id =>
      rw [hs] at hh
      exact hh
    | resetFree k =>
      rw [hs] at hh
      exact fun m timeout hc hm => hh m timeout hc (hin m hm)
    | resetNull k =>
      rw [hs] at hh
      exact fun m timeout hc hm => hh m timeout hc (hin m hm)
    | resetMark k =>
      rw [hs] at hh
      exact ⟨hh.1, fun m timeout hc hm => hh.2 m timeout hc (hin m hm)⟩
    | idle | resetCheck => trivial
  · exact h.calls
  · intro m t' hm
    by_cases hne : m = n
    · subst hne
      rw [setThread_same] at hm
      obtain rfl := Option.some.inj hm
      exact ⟨hn, ht⟩
    · rw [setThread_ne _ hne] at hm
      exact h.threads m t' hm

theorem setSession (h : s.Protocol cur) {k : SessionKind} {x : Session} (stage : HandlerStage)
    (hraw : ∀ p, x.rawRequest = some p → (s.ni k).rawRequest = some p ∨
      (∃ timeout, cur k = some (p, timeout)) ∧
        (k = .sessionEs → ∀ n timeout, cur .session = some (n, timeout) → n < p))
    (hid : x.reqID ≠ 0 → Named cur s.log k x.reqID)
    (hrecvd : ∀ n timeout, x.respRecvd = true → cur k = some (n, timeout) → s.InLoop n →
      Caused x n s.log)
    (htime : ∀ n, s.thread n = some ⟨k, .created⟩ → x.respTimeLeft = (s.ni k).respTimeLeft)
    (hhandler : (s.setSession k x).HandlerOk cur stage) :
    ({ s.setSession k x with handler := stage } : State).Protocol cur := by
  have hni : ({ s.setSession k x with handler := stage } : State).ni =
    Function.update s.ni k x := rfl
  constructor
  · exact h.faithful
  · exact h.counter
  · exact h.counted
  · exact h.current
  · exact h.distinct
  · intro k' p hp
    by_cases hk : k' = k
    · subst hk
      rw [hni, Function.update_self] at hp
      rcases hraw p hp with hr | ⟨hr, -⟩
      · exact h.raw k' p hr
      · exact hr
    · rw [hni, Function.update_of_ne hk] at hp
      exact h.raw k' p hp
  · intro m hm
    by_cases hk : SessionKind.sessionEs = k
    · subst hk
      rw [hni, Function.update_self] at hm
      rcases hraw m hm with hr | ⟨-, hr⟩
      · exact h.older m hr
      · exact hr rfl
    · rw [hni, Function.update_of_ne hk] at hm
      exact h.older m hm
  · intro k' hk'
    by_cases hk : k' = k
    · subst hk
      rw [hni, Function.update_self] at hk' ⊢
      exact hid hk'
    · rw [hni, Function.update_of_ne hk] at hk' ⊢
      exact h.named k' hk'
  · intro k' n timeout hk' hc hn
    by_cases hk : k' = k
    · subst hk
      rw [hni, Function.update_self] at hk' ⊢
      exact hrecvd n timeout hk' hc hn
    · rw [hni, Function.update_of_ne hk] at hk' ⊢
      exact h.recvd k' n timeout hk' hc hn
  · cases stage <;> exact hhandler
  · exact h.calls
  · intro n t ht
    obtain ⟨h1, h2⟩ := h.threads n t ht
    refine ⟨h1, ?_⟩
    obtain ⟨k', stage'⟩ := t
    cases stage' with
    | created =>
      obtain ⟨timeout, hc, htl⟩ := h2
      refine ⟨timeout, hc, ?_⟩
      by_cases hk : k' = k
      · subst hk
        rw [hni, Function.update_self, htime n ht]
        exact htl
      · rw [hni, Function.update_of_ne hk]
        exact htl
    | _ => exact h2

theorem init (now : Int) : (State.init now).Protocol fun _ => none where
  faithful := ⟨fun _ hr => (by cases hr), fun _ _ _ _ hr => (by cases hr)⟩
  counter := Int.le_refl 0
  counted _ _ hr := by cases hr
  current _ _ _ hc := by cases hc
  distinct _ _ _ hc := by cases hc
  raw _ _ hr := by cases hr
  older _ hr := by cases hr
  named _ hk := absurd rfl hk
  recvd _ _ _ hk := by cases hk
  handler := trivial
  calls _ _ hc := by cases hc
  threads _ _ ht := by cases ht

theorem reject (h : s.Protocol cur) (passThrough : Bool) (hidle : s.handler = .idle) {u : State}
    (hu : u = { s with
      requests := s.requests + 1
      log := s.log ++ if passThrough
        then [Record.rejected s.requests (some s.requests), .freed s.requests none]
        else [.rejected s.requests none] }) : u.Protocol cur := by
  have hrejected : ∀ r, (s.note (.rejected s.requests r)).Protocol cur :=
    fun r => h.note trivial (by simp)
  have hnoted : ({ u with requests := s.requests } : State).Protocol cur := by
    rw [hu]
    cases passThrough with
    | false => exact hrejected none
    | true =>
      have hfreed := (hrejected (some s.requests)).note (r := .freed s.requests none) trivial (by simp)
      rw [State.note, State.note] at hfreed
      simpa using hfreed
  have hreq : u.requests = s.requests + 1 := by rw [hu]
  have hhandler : u.handler = .idle := by rw [hu, ← hidle]
  constructor
  · exact hnoted.faithful
  · exact hnoted.counter
  · intro n id hm
    obtain ⟨h1, h2, h3⟩ := hnoted.counted n id hm
    exact ⟨h1, h2, by rw [hreq]; exact Nat.lt_succ_of_lt h3⟩
  · intro k n timeout hc
    obtain ⟨h1, h2⟩ := hnoted.current k n timeout hc
    exact ⟨by rw [hreq]; exact Nat.lt_succ_of_lt h1, h2⟩
  · exact hnoted.distinct
  · exact hnoted.raw
  · exact hnoted.older
  · exact hnoted.named
  · exact hnoted.recvd
  · rw [hhandler]
    trivial
  · exact hnoted.calls
  · intro n t ht
    obtain ⟨h1, h2⟩ := hnoted.threads n t ht
    exact ⟨by rw [hreq]; exact Nat.lt_succ_of_lt h1, h2⟩

theorem letIn (h : s.Protocol cur) {k : SessionKind} {timeout : Int} {r : Option Nat}
    (hfree : (s.ni k).rawRequest = none) (hes : (s.ni .sessionEs).rawRequest = none)
    (hvacated : s.Vacated k) (hr : r = none ∨ r = some s.requests) {u : State}
    (hu : u = { s with
      requests := s.requests + 1
      handler := .store s.requests k timeout r
      log := s.log ++ [Record.stored s.requests k timeout r] }) :
    u.Protocol (Function.update cur k (some (s.requests, timeout))) := by
  obtain ⟨hrecvd, hreqID, hthreads, hcalls⟩ := hvacated
  have hl : s.log ⊆ u.log := by
    rw [hu]
    exact List.subset_append_left ..
  have hreq : u.requests = s.requests + 1 := by rw [hu]
  have hni : u.ni = s.ni := by rw [hu]
  have hold : ∀ k' n timeout', cur k' = some (n, timeout') → n < s.requests :=
    fun k' n timeout' hc => (h.current k' n timeout' hc).1
  have hnumbered : ∀ n id, .numbered n id ∈ u.log → .numbered n id ∈ s.log := by
    intro n id hm
    rw [hu] at hm
    simpa using hm
  -- What is said of the other record is about the same request as before.
  have hother : ∀ k' x, k' ≠ k → Function.update cur k (some (s.requests, timeout)) k' = x →
      cur k' = x := by
    intro k' x hk hx
    rwa [Function.update_of_ne hk] at hx
  constructor
  · rw [hu]
    exact h.faithful.note trivial (by simp)
  · rw [hu]
    exact h.counter
  · intro n id hm
    obtain ⟨h1, h2, h3⟩ := h.counted n id (hnumbered n id hm)
    rw [hu]
    exact ⟨h1, h2, Nat.lt_succ_of_lt h3⟩
  · intro k' n timeout' hc
    by_cases hk : k' = k
    · subst hk
      rw [Function.update_self] at hc
      cases hc
      rw [hu]
      exact ⟨Nat.lt_succ_self _, r, by simp⟩
    · obtain ⟨h1, r', h2⟩ := h.current k' n timeout' (hother _ _ hk hc)
      rw [hreq]
      exact ⟨Nat.lt_succ_of_lt h1, r', hl h2⟩
  · intro n timeout1 timeout2 h1 h2
    cases k with
    | session =>
      rw [Function.update_self] at h1
      cases h1
      exact absurd (hold _ _ _ (hother _ _ (by simp) h2)) (Nat.lt_irrefl _)
    | sessionEs =>
      rw [Function.update_self] at h2
      cases h2
      exact absurd (hold _ _ _ (hother _ _ (by simp) h1)) (Nat.lt_irrefl _)
  · intro k' p hp
    rw [hni] at hp
    have hk : k' ≠ k := by
      rintro rfl
      rw [hfree] at hp
      cases hp
    rw [Function.update_of_ne hk]
    exact h.raw k' p hp
  · intro m hm
    rw [hni, hes] at hm
    cases hm
  · intro k' hk'
    rw [hni] at hk' ⊢
    have hk : k' ≠ k := by
      rintro rfl
      exact hk' hreqID
    obtain ⟨n, timeout', h1, h2⟩ := h.named k' hk'
    exact ⟨n, timeout', by rwa [Function.update_of_ne hk], hl h2⟩
  · intro k' n timeout' hk' hc hn
    rw [hni] at hk' ⊢
    have hk : k' ≠ k := by
      rintro rfl
      rw [hrecvd] at hk'
      cases hk'
    have hn' : s.InLoop n := by
      rw [hu] at hn
      exact hn
    exact (h.recvd k' n timeout' hk' (hother _ _ hk hc) hn').mono hl
  · rw [hu]
    refine ⟨Function.update_self .., ?_, ?_, rfl, hr, hrecvd⟩
    · cases ht : s.thread s.requests with
      | none => rfl
      | some t => exact absurd (h.threads _ t ht).1 (Nat.lt_irrefl _)
    · intro id hm
      have hm' : .numbered s.requests id ∈ s.log := by simpa using hm
      exact absurd (h.counted _ id hm').2.2 (Nat.lt_irrefl _)
  · intro i c hc
    rw [hu] at hc
    obtain ⟨hi, hok⟩ := h.calls i c hc
    have hwrites := hcalls i hi c hc
    refine ⟨by rw [hu]; exact hi, ?_⟩
    have hok' := hok.mono hl
    have hnamed : ∀ k' id, k' ≠ k → Named cur u.log k' id →
        Named (Function.update cur k (some (s.requests, timeout))) u.log k' id := by
      rintro k' id hk ⟨n, timeout', h1, h2⟩
      exact ⟨n, timeout', by rwa [Function.update_of_ne hk], h2⟩
    obtain ⟨notifId, userResponse, stage⟩ := c
    refine ⟨hok'.1, ?_⟩
    cases stage with
    | readEsId | readId => trivial
    | readEsRequest =>
      have hk : SessionKind.sessionEs ≠ k := by simpa [RespondStage.writes, eq_comm] using hwrites
      exact fun hid => hnamed _ _ hk (hok'.2 hid)
    | readRequest =>
      have hk : SessionKind.session ≠ k := by simpa [RespondStage.writes, eq_comm] using hwrites
      exact fun hid => hnamed _ _ hk (hok'.2 hid)
    | readIgnored | ignore => cases hwrites
    | write k' =>
      have hk : k' ≠ k := by simpa [RespondStage.writes, eq_comm] using hwrites
      exact hnamed _ _ hk hok'.2
  · intro n t ht
    rw [hu] at ht
    obtain ⟨hn, hok⟩ := h.threads n t ht
    refine ⟨by rw [hreq]; exact Nat.lt_succ_of_lt hn, ?_⟩
    have hok' : u.ThreadOk cur n t := by
      rw [hu]
      exact hok.note (.stored s.requests k timeout r)
    have hwrites := hthreads n hn t ht
    obtain ⟨k', stage⟩ := t
    cases stage with
    | sendMsg msg => exact hok'
    | ended => trivial
    | created =>
      have hk : k' ≠ k := fun hk => absurd (hwrites hk) (by simp [ThreadStage.writes])
      obtain ⟨timeout', h1, h2⟩ := hok'
      exact ⟨timeout', by rwa [Function.update_of_ne hk], h2⟩
    | waiting e =>
      have hk : k' ≠ k := fun hk => absurd (hwrites hk) (by simp [ThreadStage.writes])
      obtain ⟨timeout', start, h1, h2⟩ := hok'
      exact ⟨timeout', start, by rwa [Function.update_of_ne hk], h2⟩
    | clearTime msg | clearId msg =>
      have hk : k' ≠ k := fun hk => absurd (hwrites hk) (by simp [ThreadStage.writes])
      obtain ⟨⟨timeout', h1⟩, h2⟩ := hok'
      exact ⟨⟨timeout', by rwa [Function.update_of_ne hk]⟩, h2⟩

theorem leave (h : s.Protocol cur) {n : Nat} {k : SessionKind} {stage : ThreadStage}
    {timeout : Int} {x : Session} {timedOut : Bool} (ht : s.thread n = some ⟨k, stage⟩)
    (hc : cur k = some (n, timeout)) (hraw : x.rawRequest = (s.ni k).rawRequest)
    (hid : x.reqID = (s.ni k).reqID) (htime : x.respTimeLeft = (s.ni k).respTimeLeft)
    {log : List Record} (hlog : log = s.log ++ [Record.left n timedOut s.now])
    (hleft : (Record.left n timedOut s.now).Fits log)
    (hcause : ∀ p, (s.ni k).rawRequest = some p → ∃ r, x.resp = some r ∧ (Told n r log ∨
      r = .ignore ∧ Ignored n log ∨ r = .noresp ∧ ∃ time, TimedOut n time log)) :
    ((s.setSession k x).leave n k timedOut).Protocol cur := by
  obtain ⟨rs, msg, heq, hrs⟩ := leave_cases n k timedOut (s.setSession k x)
  rw [setSession_same] at heq hrs
  have hown : ∀ p, (s.ni k).rawRequest = some p → p = n := by
    intro p hp
    obtain ⟨timeout', hp⟩ := h.raw k p hp
    rw [hc] at hp
    exact (Prod.mk.inj (Option.some.inj hp)).1.symm
  have hstep : (s.note (.left n timedOut s.now)).Protocol cur :=
    h.note (by rw [← hlog]; exact hleft) (by simp)
  have hw : ({ s with log := log ++ rs } : State).Protocol cur ∧
      ∀ m ∈ msg, Answers n m (log ++ rs) := by
    have hstep' : ({ s with log := log } : State).Protocol cur := by
      rw [hlog]
      exact hstep
    rcases hrs with ⟨-, rfl, rfl⟩ | ⟨p, hp, hrs⟩
    · rw [List.append_nil]
      exact ⟨hstep', by simp⟩
    · rw [hraw] at hp
      obtain ⟨r, hr, hwhy⟩ := hcause p hp
      rcases hrs with ⟨hresp, rfl, rfl⟩ | ⟨hresp, rfl, rfl⟩
      · have hanswers : Answers n ⟨x.resp, p⟩ log := by
          refine ⟨hown p hp, ?_⟩
          rcases hwhy with hwhy | ⟨rfl, -⟩ | ⟨rfl, hwhy⟩
          · exact Or.inl ⟨r, hr, hwhy⟩
          · exact absurd hr hresp
          · exact Or.inr ⟨hr, hwhy⟩
        have hgrown := hanswers.mono (List.subset_append_left log [.informed n ⟨x.resp, p⟩])
        refine ⟨hstep'.note (r := .informed n ⟨x.resp, p⟩) hgrown (by simp), ?_⟩
        rintro m hm
        obtain rfl := Option.some.inj hm
        exact hgrown
      · have hfreed : (Record.freed p (some n)).Fits log := by
          refine ⟨hown p hp, ?_⟩
          rw [hresp] at hr
          obtain rfl := Option.some.inj hr
          rcases hwhy with hwhy | ⟨-, hwhy⟩ | ⟨hne, -⟩
          · exact Or.inl hwhy
          · exact Or.inr hwhy
          · cases hne
        refine ⟨hstep'.note (r := .freed p (some n)) ?_ (by simp), by simp⟩
        exact hfreed.mono (List.subset_append_left ..)
  have hcreates : ∀ k', s.handler.creates ≠ some (n, k') := by
    intro k' hk
    have hnone := (h.handler.creating hk).1
    rw [ht] at hnone
    cases hnone
  have hthread := hw.1.setThread (n := n) (t := ⟨k, .clearTime msg⟩) (h.threads n _ ht).1
    ⟨⟨timeout, hc⟩, hw.2⟩ hcreates (by simp [ThreadStage.looping])
  have hout : ¬ (({ s with log := log ++ rs } : State).setThread n ⟨k, .clearTime msg⟩).InLoop n :=
    fun hin => absurd (hin _ (setThread_same ..)) (by simp [ThreadStage.looping])
  have hx := hthread.setSession (k := k)
    (x := { x with respRecvd := false, rawRequest := none }) s.handler
    (fun p hp => by cases hp)
    (fun hne => by
      rw [hid] at hne ⊢
      exact hthread.named k hne)
    (fun _ _ hne => by cases hne) (fun _ _ => htime)
    (hthread.handler.setSession
      (Or.inl fun m => h.not_creating hc ht m)
      (Or.inr ⟨rfl, fun m timeout' hm => by
        rw [hc] at hm
        obtain ⟨rfl, -⟩ := Prod.mk.inj (Option.some.inj hm)
        exact hout⟩))
  rw [heq]
  rw [hlog] at hx
  simpa [State.setSession, State.setThread, Function.update_idem] using hx

theorem leaveTold (h : s.Protocol cur) {n : Nat} {k : SessionKind} {stage : ThreadStage}
    {timeout : Int} (ht : s.thread n = some ⟨k, stage⟩) (hloop : stage.looping = true)
    (hc : cur k = some (n, timeout)) (hrecvd : (s.ni k).respRecvd = true) :
    (s.leave n k false).Protocol cur := by
  have hin : s.InLoop n := by
    intro t hn
    rw [ht] at hn
    obtain rfl := Option.some.inj hn
    exact hloop
  have hl := List.subset_append_left s.log [Record.left n false s.now]
  have hcaused := (h.recvd k n timeout hrecvd hc hin).mono hl
  have hsame : s.setSession k (s.ni k) = s := by simp [State.setSession]
  rw [← hsame]
  refine h.leave ht hc rfl rfl rfl rfl ?_ ?_
  · rcases hcaused with ⟨r, -, hr | ⟨-, hr⟩⟩ | ⟨-, hr⟩
    · exact Or.inl ⟨r, hr⟩
    · exact Or.inr (Or.inl hr)
    · exact Or.inr (Or.inr hr)
  · intro p hp
    rcases hcaused with ⟨r, hr, hwhy | ⟨hwhy, hi⟩⟩ | ⟨hnone, -⟩
    · exact ⟨r, hr, Or.inl hwhy⟩
    · exact ⟨r, hr, Or.inr (Or.inl ⟨hwhy, hi⟩)⟩
    · rw [hnone] at hp
      cases hp

theorem timeout (h : s.Protocol cur) {n : Nat} {u : State} (hu : s.timeout n = some u) :
    u.Protocol cur := by
  unfold State.timeout at hu
  split at hu
  case h_1 k expireTime ht =>
    split_ifs at hu with hexpired
    obtain rfl := Option.some.inj hu
    obtain ⟨-, timeout, start, hc, hstart, rfl⟩ := h.threads n _ ht
    obtain ⟨-, r, hstored⟩ := h.current k n timeout hc
    have htimedOut : TimedOut n s.now (s.log ++ [Record.left n true s.now]) :=
      ⟨k, timeout, r, start, List.mem_append_left _ hstored, List.mem_append_left _ hstart,
        List.mem_append_right _ (List.mem_singleton_self _), hexpired⟩
    exact h.leave ht hc rfl rfl rfl rfl htimedOut
      (fun p hp => ⟨.noresp, rfl, Or.inr (Or.inr ⟨rfl, s.now, htimedOut⟩)⟩)
  case h_2 => cases hu

theorem clear (h : s.Protocol cur) {n : Nat} {k : SessionKind} {stage : ThreadStage}
    {timeout : Int} {x : Session} (ht : s.thread n = some ⟨k, stage⟩)
    (hout : stage.looping = false) (hc : cur k = some (n, timeout))
    (hraw : x.rawRequest = (s.ni k).rawRequest) (hid : x.reqID = 0 ∨ x.reqID = (s.ni k).reqID) :
    (s.setSession k x).Protocol cur := by
  refine h.setSession s.handler (fun p hp => Or.inl (by rw [← hraw, hp])) ?_ ?_ ?_
    (h.handler.setSession (Or.inl fun m => h.not_creating hc ht m) (Or.inl hraw))
  · intro hne
    rcases hid with hid | hid
    · exact absurd hid hne
    · rw [hid] at hne ⊢
      exact h.named k hne
  · intro m timeout' hx hm hin
    rw [hc] at hm
    obtain ⟨rfl, -⟩ := Prod.mk.inj (Option.some.inj hm)
    rw [hin _ ht] at hout
    cases hout
  · intro m hm
    obtain ⟨timeout', hm', -⟩ := (h.threads m _ hm).2
    rw [hc] at hm'
    obtain ⟨rfl, -⟩ := Prod.mk.inj (Option.some.inj hm')
    rw [ht] at hm
    cases hm
    cases hout

theorem runThread (h : s.Protocol cur) {n : Nat} {u : State} (hu : s.runThread n = some u) :
    u.Protocol cur := by
  cases ht : s.thread n with
  | none => simp [State.runThread, ht] at hu
  | some t =>
    obtain ⟨k, stage⟩ := t
    obtain ⟨hn, hok⟩ := h.threads n _ ht
    have hcreates : ∀ k', s.handler.creates ≠ some (n, k') := by
      intro k' hk
      have hnone := (h.handler.creating hk).1
      rw [ht] at hnone
      cases hnone
    cases stage <;> simp only [State.runThread, ht, Option.some.injEq, reduceCtorEq] at hu
    case created =>
      obtain ⟨timeout, hc, htime⟩ := hok
      have hstarted : (s.note (.started n s.now)).Protocol cur := h.note trivial (by simp)
      rw [← hu]
      split_ifs with hrecvd
      · exact hstarted.leaveTold ht rfl hc hrecvd
      · refine hstarted.setThread hn ⟨timeout, s.now, hc, ?_, ?_⟩ hcreates ?_
        · exact List.mem_append_right _ (List.mem_singleton_self _)
        · rw [← htime]
          rfl
        · intro _ t' ht'
          rw [show (s.note (.started n s.now)).thread n = some ⟨k, .created⟩ from ht] at ht'
          obtain rfl := Option.some.inj ht'
          rfl
    case waiting =>
      obtain ⟨timeout, start, hc, -, -⟩ := hok
      rw [← hu]
      split_ifs with hrecvd
      · exact h.leaveTold ht rfl hc hrecvd
      · exact h
    case clearTime msg =>
      obtain ⟨⟨timeout, hc⟩, hmsg⟩ := hok
      rw [← hu]
      exact (h.clear (x := { s.ni k with respTimeLeft := 0 }) ht rfl hc rfl
        (Or.inr rfl)).setThread hn ⟨⟨timeout, hc⟩, hmsg⟩ hcreates (by simp [ThreadStage.looping])
    case clearId msg =>
      obtain ⟨⟨timeout, hc⟩, hmsg⟩ := hok
      rw [← hu]
      exact (h.clear (x := { s.ni k with reqID := 0 }) ht rfl hc rfl
        (Or.inl rfl)).setThread hn hmsg hcreates (by simp [ThreadStage.looping])
    case sendMsg msg =>
      rw [← hu]
      cases msg with
      | none => exact h.setThread hn trivial hcreates (by simp [ThreadStage.looping])
      | some msg =>
        have hfits : (Record.sent n msg).Fits s.log := hok msg rfl
        have hsent : (s.note (.sent n msg)).Protocol cur :=
          h.note (hfits.mono (List.subset_append_left ..)) (by simp)
        exact hsent.setThread hn trivial hcreates (by simp [ThreadStage.looping])

theorem respond (h : s.Protocol cur) (notifId : Int) (userResponse : GpsUserResponseType) :
    (s.respond notifId userResponse).Protocol cur := by
  have hnoted : (s.note (.responded notifId userResponse)).Protocol cur :=
    h.note trivial (by simp)
  exact {
    faithful := hnoted.faithful
    counter := hnoted.counter
    counted := hnoted.counted
    current := hnoted.current
    distinct := hnoted.distinct
    raw := hnoted.raw
    older := hnoted.older
    named := hnoted.named
    recvd := hnoted.recvd
    handler := hnoted.handler
    calls := by
      intro i c hc
      by_cases hi : i = s.calls
      · subst hi
        have hc' : some c = some ⟨notifId, userResponse, .readEsId⟩ :=
          hc.symm.trans (setCall_same ..)
        obtain rfl := Option.some.inj hc'
        exact ⟨Nat.lt_succ_self _, List.mem_append_right _ (List.mem_singleton_self _), trivial⟩
      · have hc' : s.call i = some c := (setCall_ne _ hi).symm.trans hc
        obtain ⟨h1, h2⟩ := hnoted.calls i c hc'
        exact ⟨Nat.lt_succ_of_lt h1, h2⟩
    threads := hnoted.threads }

theorem writeResponse (h : s.Protocol cur) {k : SessionKind} {r : GpsUserResponseType}
    (hcause : ∀ n timeout, cur k = some (n, timeout) →
      Told n r s.log ∨ r = .ignore ∧ Ignored n s.log)
    (hstore : ∀ n timeout r', s.handler ≠ .store n k timeout r') :
    (s.setSession k { s.ni k with resp := some r, respRecvd := true }).Protocol cur :=
  h.setSession s.handler (fun _ hp => Or.inl hp) (fun hne => h.named k hne)
    (fun n timeout _ hc _ => Or.inl ⟨r, rfl, hcause n timeout hc⟩) (fun _ _ => rfl)
    (h.handler.setSession (Or.inr ⟨rfl, rfl, hstore⟩) (Or.inl rfl))

theorem runRespond (h : s.Protocol cur) {i : Nat} {u : State}
    (hseparate : s.Separate (.respondCall i)) (hu : s.runRespond i = some u) :
    u.Protocol cur := by
  cases hc : s.call i with
  | none => simp [State.runRespond, hc] at hu
  | some c =>
    obtain ⟨hi, hok⟩ := h.calls i c hc
    have hzero := hseparate c hc
    obtain ⟨notifId, userResponse, stage⟩ := c
    obtain ⟨hr, hok⟩ := hok
    have hend : (s.setCall i none).Protocol cur := h.setCall hi (by simp)
    have hgoto : ∀ stage', RespondCall.Ok s.log cur ⟨notifId, userResponse, stage'⟩ →
        (s.setCall i (some ⟨notifId, userResponse, stage'⟩)).Protocol cur := by
      intro stage' hok'
      refine h.setCall hi ?_
      rintro c' hc'
      obtain rfl := Option.some.inj hc'
      exact hok'
    cases stage <;> simp only [State.runRespond, hc, Option.some.injEq] at hu
    case readEsId =>
      split_ifs at hu with hid <;> cases hu
      · refine hgoto .readEsRequest ⟨hr, fun hne => ?_⟩
        have hid' : notifId = (s.ni .sessionEs).reqID := hid
        rw [hid'] at hne ⊢
        exact h.named _ hne
      · exact hgoto .readId ⟨hr, trivial⟩
    case readEsRequest =>
      split_ifs at hu with hraw haccept <;> cases hu
      · obtain ⟨p, hp⟩ := Option.isSome_iff_exists.mp hraw
        refine hgoto .readIgnored ⟨hr, haccept, hok ?_, ?_⟩
        · intro hid
          rw [(hzero hid).1 rfl] at hp
          cases hp
        · intro n m timeout timeout' hn hm
          obtain ⟨timeout'', hp'⟩ := h.raw _ p hp
          rw [hm] at hp'
          obtain ⟨rfl, -⟩ := Prod.mk.inj (Option.some.inj hp')
          exact h.older m hp n timeout hn
      · refine hgoto (.write .sessionEs) ⟨hr, hok fun hid => ?_⟩
        rw [(hzero hid).1 rfl] at hraw
        cases hraw
      · exact hgoto .readId ⟨hr, trivial⟩
    case readIgnored =>
      split_ifs at hu <;> cases hu
      · exact hgoto .ignore ⟨hr, hok⟩
      · exact hgoto (.write .sessionEs) ⟨hr, hok.2.1⟩
    case ignore =>
      obtain ⟨haccept, ⟨m, timeout', hm, hnumbered⟩, hlater⟩ := hok
      have haccept : userResponse = .accept := haccept
      obtain ⟨hlt, r, hstored⟩ := h.current _ m timeout' hm
      rw [haccept] at hr
      have hwrite := h.writeResponse (k := .session) (r := .ignore)
        (fun n timeout hn => Or.inr ⟨rfl, m, timeout', r, notifId, hlater n m timeout timeout' hn hm,
          hstored, hnumbered, hr⟩)
        (fun n timeout r' hs => by
          have hh := h.handler
          rw [hs] at hh
          obtain ⟨hn, -, -, hreq, -⟩ := hh
          have := hlater n m timeout timeout' hn hm
          omega)
      rw [← hu]
      refine hwrite.setCall hi ?_
      rintro c' hc'
      obtain rfl := Option.some.inj hc'
      rw [haccept]
      exact ⟨hr, m, timeout', hm, hnumbered⟩
    case readId =>
      split_ifs at hu with hid <;> cases hu
      · refine hgoto .readRequest ⟨hr, fun hne => ?_⟩
        have hid' : notifId = (s.ni .session).reqID := hid
        rw [hid'] at hne ⊢
        exact h.named _ hne
      · exact hend
    case readRequest =>
      split_ifs at hu with hraw <;> cases hu
      · refine hgoto (.write .session) ⟨hr, hok fun hid => ?_⟩
        rw [(hzero hid).2 rfl] at hraw
        cases hraw
      · exact hend
    case write k =>
      obtain ⟨m, timeout', hm, hnumbered⟩ := hok
      have hwrite := h.writeResponse (k := k) (r := userResponse)
        (fun n timeout hn => by
          rw [hm] at hn
          obtain ⟨rfl, -⟩ := Prod.mk.inj (Option.some.inj hn)
          exact Or.inl ⟨notifId, hnumbered, hr⟩)
        (fun n timeout r' hs => by
          have hh := h.handler
          rw [hs] at hh
          obtain ⟨hn, -, hun, -⟩ := hh
          rw [hm] at hn
          obtain ⟨rfl, -⟩ := Prod.mk.inj (Option.some.inj hn)
          exact hun notifId hnumbered)
      rw [← hu]
      exact hwrite.setCall hi (by simp)

theorem assign (h : s.Protocol cur) {n : Nat} {k : SessionKind} {timeout : Int}
    (hs : s.handler = .number n k timeout) :
    ({ s with
      reqIDCounter := s.reqIDCounter + 1
      handler := .setTime n k timeout (s.reqIDCounter + 1) }.note
        (.numbered n (s.reqIDCounter + 1))).Protocol cur := by
  have hok := h.handler
  rw [hs] at hok
  obtain ⟨hc, hnone, hun⟩ := hok
  have hl := List.subset_append_left s.log [Record.numbered n (s.reqIDCounter + 1)]
  have hmem : ∀ m id, .numbered m id ∈ s.log ++ [Record.numbered n (s.reqIDCounter + 1)] →
      .numbered m id ∈ s.log ∨ m = n ∧ id = s.reqIDCounter + 1 := by
    intro m id hm
    rcases List.mem_append.mp hm with hm | hm
    · exact Or.inl hm
    · have heq := List.mem_singleton.mp hm
      simp only [Record.numbered.injEq] at heq
      exact Or.inr heq
  have hcounter := h.counter
  constructor
  · refine ⟨fun r hr => ?_, fun m m' id id' hm hm' => ?_⟩
    · rcases List.mem_append.mp hr with hr | hr
      · exact (h.faithful.fits r hr).mono hl
      · obtain rfl := List.mem_singleton.mp hr
        trivial
    · rcases hmem m id hm with h1 | ⟨h1, hid⟩
      · rcases hmem m' id' hm' with h2 | ⟨h2, hid'⟩
        · exact h.faithful.numbers m m' id id' h1 h2
        · have hle := (h.counted m id h1).2.1
          constructor
          · intro heq
            rw [heq, h2] at h1
            exact absurd h1 (hun id)
          · intro heq
            omega
      · rcases hmem m' id' hm' with h2 | ⟨h2, hid'⟩
        · have hle := (h.counted m' id' h2).2.1
          constructor
          · intro heq
            rw [← heq, h1] at h2
            exact absurd h2 (hun id')
          · intro heq
            omega
        · rw [h1, h2, hid, hid']
          simp
  · show 0 ≤ s.reqIDCounter + 1
    omega
  · intro m id hm
    show 0 < id ∧ id ≤ s.reqIDCounter + 1 ∧ m < s.requests
    rcases hmem m id hm with hm | ⟨rfl, rfl⟩
    · obtain ⟨h1, h2, h3⟩ := h.counted m id hm
      exact ⟨h1, by omega, h3⟩
    · exact ⟨by omega, by omega, (h.current k m timeout hc).1⟩
  · intro k' m timeout' hm
    obtain ⟨h1, r, h2⟩ := h.current k' m timeout' hm
    exact ⟨h1, r, hl h2⟩
  · exact h.distinct
  · exact h.raw
  · exact h.older
  · exact fun k' hk => (h.named k' hk).mono hl
  · exact fun k' m timeout' hk hm hin => (h.recvd k' m timeout' hk hm hin).mono hl
  · exact ⟨hc, hnone, List.mem_append_right _ (List.mem_singleton_self _)⟩
  · intro i c hc'
    obtain ⟨h1, h2⟩ := h.calls i c hc'
    exact ⟨h1, h2.mono hl⟩
  · intro m t hm
    obtain ⟨h1, h2⟩ := h.threads m t hm
    exact ⟨h1, h2.note (.numbered n (s.reqIDCounter + 1))⟩

theorem resetNext_ok (k : SessionKind) (s : State) (cur : Current) :
    s.HandlerOk cur (resetNext k) := by
  cases k <;> trivial

theorem runHandler (h : s.Protocol cur) {createOk : Bool} {u : State}
    (hu : s.runHandler createOk = some u) : u.Protocol cur := by
  have hok := h.handler
  cases hs : s.handler <;> rw [hs] at hok <;>
    simp only [State.runHandler, hs, Option.some.injEq, reduceCtorEq] at hu
  case store n k timeout r =>
    obtain ⟨hc, hnone, hun, hreq, hr, hrecvd⟩ := hok
    rw [← hu]
    refine h.setSession _ (fun p hp => Or.inr ?_) (fun hne => h.named k hne)
      (fun _ _ hne => absurd (hrecvd.symm.trans hne) (by simp)) (fun _ _ => rfl) ⟨hc, hnone, hun⟩
    have hp' : r = some p := hp
    rcases hr with hr | hr
    · rw [hr] at hp'
      cases hp'
    · rw [hr] at hp'
      obtain rfl := Option.some.inj hp'
      refine ⟨⟨timeout, hc⟩, ?_⟩
      rintro rfl m timeout' hm
      have hlt := (h.current _ m timeout' hm).1
      have hne : m ≠ n := by
        rintro rfl
        exact h.distinct m timeout' timeout hm hc
      omega
  case number n k timeout =>
    have hassigned := h.assign hs
    rw [← hu]
    exact hassigned.setSession (k := k) (x := { s.ni k with reqID := s.reqIDCounter + 1 })
      (.fill n k timeout) (fun _ hp => Or.inl hp)
      (fun _ => ⟨n, timeout, hok.1, List.mem_append_right _ (List.mem_singleton_self _)⟩)
      (hassigned.recvd k) (fun _ _ => rfl)
      ⟨hok.1, hok.2.1, by
        rw [setSession_same]
        exact List.mem_append_right _ (List.mem_singleton_self _)⟩
  case fill n k timeout =>
    rw [← hu]
    exact h.setHandler (.setTime n k timeout (s.ni k).reqID) hok
  case setTime n k timeout id =>
    obtain ⟨hc, hnone, hid⟩ := hok
    rw [← hu]
    refine h.setSession _ (fun _ hp => Or.inl hp) (h.named k) (h.recvd k) (fun m hm => ?_)
      ⟨hnone, hid, timeout, hc, by rw [setSession_same]⟩
    obtain ⟨timeout', hc', -⟩ := (h.threads m _ hm).2
    rw [hc] at hc'
    obtain ⟨rfl, -⟩ := Prod.mk.inj (Option.some.inj hc')
    rw [hnone] at hm
    cases hm
  case create n k id =>
    obtain ⟨hnone, hid, timeout, hc, htime⟩ := hok
    have hnotify := h.setHandler (.notify n id) hid
    cases createOk with
    | false =>
      rw [← hu]
      exact hnotify
    | true =>
      rw [← hu]
      refine hnotify.setThread (t := ⟨k, .created⟩) (h.current k n timeout hc).1
        ⟨timeout, hc, htime⟩ (fun _ hk => by cases hk) (fun _ t ht => ?_)
      rw [show ({ s with handler := .notify n id } : State).thread n = none from hnone] at ht
      cases ht
  case notify n id =>
    rw [← hu]
    have hid : .numbered n id ∈ s.log := hok
    exact (h.note (r := .notified n id) (List.mem_append_left _ hid) (by simp)).setHandler
      .idle trivial
  case resetCheck k =>
    rw [← hu]
    refine h.setHandler _ ?_
    split_ifs with hraw
    · intro n timeout hc _
      obtain ⟨p, hp⟩ := Option.isSome_iff_exists.mp hraw
      obtain ⟨timeout', hp'⟩ := h.raw k p hp
      rw [hc] at hp'
      obtain ⟨rfl, -⟩ := Prod.mk.inj (Option.some.inj hp')
      exact hp
    · exact resetNext_ok ..
  case resetFree k =>
    rw [← hu]
    cases hr : (s.ni k).rawRequest with
    | none =>
      refine h.setHandler (.resetNull k) fun n timeout hc hin => ?_
      have habs := hok n timeout hc hin
      rw [hr] at habs
      cases habs
    | some p =>
      refine (h.note (r := .freed p none) trivial (by simp)).setHandler (.resetNull k)
        fun n timeout hc hin => ?_
      have hp := hok n timeout hc hin
      rw [hr] at hp
      obtain rfl := Option.some.inj hp
      exact List.mem_append_right _ (List.mem_singleton_self _)
  case resetNull k =>
    rw [← hu]
    refine h.setSession _ (fun _ hp => by cases hp) (h.named k) (fun n timeout hr hc hin => ?_)
      (fun _ _ => rfl) ⟨by rw [setSession_same], hok⟩
    rcases h.recvd k n timeout hr hc hin with hcause | ⟨-, hfreed⟩
    · exact Or.inl hcause
    · exact Or.inr ⟨rfl, hfreed⟩
  case resetMark k =>
    rw [← hu]
    exact h.setSession _ (fun _ hp => Or.inl hp) (h.named k)
      (fun n timeout _ hc hin => Or.inr ⟨hok.1, hok.2 n timeout hc hin⟩) (fun _ _ => rfl)
      (resetNext_ok ..)

theorem step (h : s.Protocol cur) {e : Event} (hseparate : s.Separate e) {u : State}
    (hu : s.step e = some u) : ∃ cur', u.Protocol cur' := by
  cases e with
  | clock now =>
    simp only [State.step, Option.ite_none_right_eq_some, Option.some.injEq] at hu
    obtain ⟨-, rfl⟩ := hu
    exact ⟨cur, { h with handler := h.handler }⟩
  | request isEs timeout passThrough =>
    obtain ⟨hidle, ⟨-, hr⟩ | ⟨hb, r, hr, hs⟩⟩ := request_cases hu
    · exact ⟨cur, h.reject passThrough hidle hr⟩
    · have hfree : (s.ni (kindOf isEs)).rawRequest = none ∧
          (s.ni .sessionEs).rawRequest = none := by
        cases isEs <;> simp [busy] at hb
        · exact hb
        · exact ⟨hb, hb⟩
      rcases hseparate with hbusy | hvacated
      · rw [hb] at hbusy
        cases hbusy
      · exact ⟨_, h.letIn hfree.1 hfree.2 hvacated hr hs⟩
  | reset =>
    simp only [State.step, State.reset, Option.ite_none_right_eq_some, Option.some.injEq] at hu
    obtain ⟨-, rfl⟩ := hu
    exact ⟨cur, h.setHandler (.resetCheck .sessionEs) trivial⟩
  | handler createOk => exact ⟨cur, h.runHandler hu⟩
  | respond notifId userResponse =>
    obtain rfl := Option.some.inj hu
    exact ⟨cur, h.respond notifId userResponse⟩
  | respondCall i => exact ⟨cur, h.runRespond hseparate hu⟩
  | thread n => exact ⟨cur, h.runThread hu⟩
  | timeout n => exact ⟨cur, h.timeout hu⟩

end Protocol

end Frames

theorem session_answers_own_request (now : Int) (es : List Event) (s : State)
    (hseparate : Runs.Along step Separate (init now) es)
    (h : Runs.play step (init now) es = some s) : Faithful s.log := by
  obtain ⟨cur, hs⟩ := Runs.play_invariant (I := fun s => ∃ cur, s.Protocol cur)
    (fun _ _ _ ⟨_, hs⟩ he hu => hs.step he hu) ⟨_, Protocol.init now⟩ hseparate h
  exact hs.faithful

def sessionAnswered : List Event :=
  sessionStarts ++ .respond 1 .accept :: List.replicate 4 (.respondCall 0) ++
    List.replicate 4 (.thread 0) ++ [.request false 10 true]

theorem session_answers_own_request_twice : ∃ s,
    Runs.play step (init 0) sessionAnswered = some s ∧ Faithful s.log :=
  ⟨_, rfl, session_answers_own_request 0 sessionAnswered _ (by decide) rfl⟩

def restartedSession : List Event :=
  sessionStarts ++ .reset :: List.replicate 5 (.handler true) ++
    .request false 10 true :: List.replicate 6 (.handler true) ++ List.replicate 4 (.thread 0)

theorem old_thread_answers_next_request : ¬ ∀ (now : Int) (es : List Event) (s : State),
    Runs.play step (init now) es = some s → Faithful s.log := by
  intro h
  have hfaithful := h 0 restartedSession _ rfl
  have hsent := hfaithful.fits (.sent 0 ⟨none, 1⟩) (by decide)
  exact absurd hsent.1 (by decide)

end State

end Wt88047.Ni
