import Wt88047.Lib.Runs
import Mathlib.Algebra.Order.Ring.Nat
import Mathlib.Data.List.Perm.Basic

/-! The map and unmap messages of `mm_camera_util_sendmsg` and the one event slot in which the
answers of the daemon arrive. -/

namespace Wt88047.MapUnmap

/-- A `CAM_EVENT_TYPE_MAP_UNMAP_DONE` event. `request` is the message it answers, which the event
itself does not say. -/
structure Answer where
  request : Nat
  success : Bool
  deriving DecidableEq

inductive Caller
  | none
  | sending
  | looking (request : Nat)
  | waiting (request : Nat)
  | returning
  deriving DecidableEq

structure Return where
  request : Option Nat
  answer : Option Answer
  rc : Int
  deriving DecidableEq

/-- `evtRcvd` is the slot, empty when its event type is cleared. `wire` are the messages the daemon
has not taken yet, `events` its answers that are still to be delivered, `reported` all of them. -/
structure World where
  caller : Caller := .none
  evtRcvd : Option Answer := none
  wire : List Nat := []
  events : List Answer := []
  sent : Nat := 0
  reported : List Answer := []
  returned : List Return := []

/-- The end of `mm_camera_util_wait_for_event` and what is left of the call. The slot is cleared
whatever it holds. -/
def endWait (r : Nat) (a : Option Answer) (w : World) : World :=
  { w with
    caller := .returning
    evtRcvd := none
    returned := ⟨some r, a, if (a.map Answer.success).getD false then 0 else -1⟩ :: w.returned }

/-- `mm_camera_socket_sendmsg` and what follows it at once. -/
def sendmsg (ok : Bool) (w : World) : World :=
  if ok then { w with caller := .looking w.sent, wire := w.wire ++ [w.sent], sent := w.sent + 1 }
  else { w with caller := .returning, returned := ⟨none, none, -1⟩ :: w.returned }

def look (r : Nat) (w : World) : World :=
  match w.evtRcvd with
  | some a => endWait r (some a) w
  | none => { w with caller := .waiting r }

/-- The daemon takes a message and answers it; a message that got lost is not answered. -/
def receive (r : Nat) (reply : Option Bool) (w : World) : World :=
  match reply with
  | some success =>
    { w with events := w.events ++ [⟨r, success⟩], reported := ⟨r, success⟩ :: w.reported }
  | none => w

inductive Event
  | lock
  | send (ok : Bool)
  | look
  | timeout
  | unlock
  | receive (reply : Option Bool)
  | deliver
  deriving DecidableEq

/-- The sections of the calls, of the daemon and of `mm_camera_event_notify`. -/
def step (w : World) : Event → Option World
  | .lock => if w.caller = .none then some { w with caller := .sending } else none
  | .send ok => if w.caller = .sending then some (sendmsg ok w) else none
  | .look =>
    match w.caller with
    | .looking r | .waiting r => some (look r w)
    | _ => none
  | .timeout =>
    match w.caller with
    | .waiting r => some (endWait r none w)
    | _ => none
  | .unlock => if w.caller = .returning then some { w with caller := .none } else none
  | .receive reply =>
    match w.wire with
    | r :: rest => some (receive r reply { w with wire := rest })
    | [] => none
  | .deliver =>
    match w.events with
    | a :: rest => some { w with events := rest, evtRcvd := some a }
    | [] => none

def TimedOut (w : World) (r : Nat) : Prop := ∃ x ∈ w.returned, x.request = some r ∧ x.answer = none

/-- No answer is delivered after the wait for it has timed out. -/
def InTime (w : World) : Event → Prop
  | .deliver => ∀ a ∈ w.events.head?, ¬TimedOut w a.request
  | _ => True

instance (w : World) (r : Nat) : Decidable (TimedOut w r) :=
  inferInstanceAs (Decidable (∃ x ∈ w.returned, x.request = some r ∧ x.answer = none))

instance (w : World) (e : Event) : Decidable (InTime w e) :=
  match e with
  | .deliver => inferInstanceAs (Decidable (∀ a ∈ w.events.head?, ¬TimedOut w a.request))
  | .lock | .send _ | .look | .timeout | .unlock | .receive _ => isTrue trivial

/-- Every call that was answered was answered by the answer to its own message, and returns 0 only
for a success. -/
structure Correlated (w : World) : Prop where
  own : ∀ x ∈ w.returned, ∀ a, x.answer = some a → x.request = some a.request ∧ a ∈ w.reported
  honest : ∀ x ∈ w.returned, x.rc = 0 → ∃ a, x.answer = some a ∧ a.success = true

def Caller.request : Caller → Option Nat
  | .looking r | .waiting r => some r
  | _ => Option.none

def World.unanswered (w : World) : List Nat := w.wire ++ w.events.map Answer.request

structure Inv (w : World) : Prop where
  nodup : w.unanswered.Nodup
  sent : ∀ r ∈ w.unanswered, r < w.sent
  waited : ∀ r ∈ w.unanswered, w.caller.request = some r ∨ TimedOut w r
  slot : ∀ a, w.evtRcvd = some a → w.caller.request = some a.request ∧ a.request ∉ w.unanswered ∧
    a ∈ w.reported
  events : ∀ a ∈ w.events, a ∈ w.reported
  correlated : Correlated w

namespace Inv

variable {w w' : World} {r : Nat}

theorem move (hw : Inv w) {c : Caller} (hc : c.request = w.caller.request) :
    Inv { w with caller := c } := by
  refine ⟨hw.nodup, hw.sent, ?_, ?_, hw.events, ⟨hw.correlated.own, hw.correlated.honest⟩⟩
  · intro r hr
    exact (hw.waited r hr).imp_left fun h => hc.trans h
  · intro a ha
    obtain ⟨h1, h2, h3⟩ := hw.slot a ha
    exact ⟨hc.trans h1, h2, h3⟩

theorem sendmsg (hw : Inv w) (hc : w.caller = .sending) (ok : Bool) : Inv (sendmsg ok w) := by
  have hno : w.caller.request = none := by rw [hc]; rfl
  have hempty : w.evtRcvd = none := by
    cases hs : w.evtRcvd with
    | none => rfl
    | some a => exact absurd (hno.symm.trans (hw.slot a hs).1) (by simp)
  cases ok with
  | true =>
    have hperm : ((w.wire ++ [w.sent]) ++ w.events.map Answer.request).Perm (w.sent :: w.unanswered) := by
      rw [List.append_assoc]
      exact List.perm_middle
    have hmem : ∀ r, r ∈ (w.wire ++ [w.sent]) ++ w.events.map Answer.request ↔
        r = w.sent ∨ r ∈ w.unanswered := fun r => hperm.mem_iff.trans List.mem_cons
    refine ⟨?_, ?_, ?_, ?_, hw.events, ⟨hw.correlated.own, hw.correlated.honest⟩⟩
    · refine hperm.nodup_iff.mpr (List.nodup_cons.mpr ⟨fun h => ?_, hw.nodup⟩)
      exact absurd (hw.sent _ h) (Nat.lt_irrefl _)
    · intro r hr
      rcases (hmem r).mp hr with rfl | hr
      · exact Nat.lt_succ_self _
      · exact Nat.lt_succ_of_lt (hw.sent r hr)
    · intro r hr
      rcases (hmem r).mp hr with rfl | hr
      · exact .inl rfl
      · refine .inr ((hw.waited r hr).resolve_left fun h => ?_)
        rw [hno] at h
        cases h
    · intro a ha
      rw [show (MapUnmap.sendmsg true w).evtRcvd = w.evtRcvd from rfl, hempty] at ha
      cases ha
  | false =>
    have hlog : ∀ x ∈ (MapUnmap.sendmsg false w).returned,
        x ∈ w.returned ∨ x = ⟨none, none, -1⟩ := fun x hx => (List.mem_cons.mp hx).symm
    refine ⟨hw.nodup, hw.sent, ?_, ?_, hw.events, ?_, ?_⟩
    · intro r hr
      rcases hw.waited r hr with h | ⟨x, hx, h⟩
      · rw [hno] at h
        cases h
      · exact .inr ⟨x, List.mem_cons_of_mem _ hx, h⟩
    · intro a ha
      rw [show (MapUnmap.sendmsg false w).evtRcvd = w.evtRcvd from rfl, hempty] at ha
      cases ha
    · intro x hx a ha
      rcases hlog x hx with hx | rfl
      · exact hw.correlated.own x hx a ha
      · cases ha
    · intro x hx hrc
      rcases hlog x hx with hx | rfl
      · exact hw.correlated.honest x hx hrc
      · cases hrc

theorem endWait (hw : Inv w) (hc : w.caller.request = some r) {a : Option Answer}
    (ha : a = none ∨ w.evtRcvd = a) : Inv (endWait r a w) := by
  have hown : ∀ b, a = some b → w.evtRcvd = some b := fun b hb => by
    rcases ha with ha | ha
    · rw [ha] at hb
      cases hb
    · rw [ha, hb]
  have hreq : ∀ b, a = some b → b.request = r := fun b hb =>
    (Option.some.inj (hc.symm.trans (hw.slot b (hown b hb)).1)).symm
  have hlog : ∀ x ∈ (MapUnmap.endWait r a w).returned, x ∈ w.returned ∨
      x = ⟨some r, a, if (a.map Answer.success).getD false then 0 else -1⟩ :=
    fun x hx => (List.mem_cons.mp hx).symm
  refine ⟨hw.nodup, hw.sent, ?_, nofun, hw.events, ?_, ?_⟩
  · intro q hq
    right
    rcases hw.waited q hq with h | ⟨x, hx, h⟩
    · obtain rfl := Option.some.inj (hc.symm.trans h)
      cases a with
      | none => exact ⟨_, List.mem_cons_self .., rfl, rfl⟩
      | some b =>
        refine absurd ?_ (hw.slot b (hown b rfl)).2.1
        rw [hreq b rfl]
        exact hq
    · exact ⟨x, List.mem_cons_of_mem _ hx, h⟩
  · intro x hx b hb
    rcases hlog x hx with hx | rfl
    · exact hw.correlated.own x hx b hb
    · exact ⟨congrArg some (hreq b hb).symm, (hw.slot b (hown b hb)).2.2⟩
  · intro x hx hrc
    rcases hlog x hx with hx | rfl
    · exact hw.correlated.honest x hx hrc
    · cases a with
      | none => cases hrc
      | some b =>
        refine ⟨b, rfl, ?_⟩
        cases hs : b.success with
        | true => rfl
        | false => simp [hs] at hrc

theorem receive (hw : Inv w) {rest : List Nat} (hwire : w.wire = r :: rest) (reply : Option Bool) :
    Inv (receive r reply { w with wire := rest }) := by
  have hall : w.unanswered = r :: (rest ++ w.events.map Answer.request) := by
    unfold World.unanswered
    rw [hwire]
    rfl
  have hnodup := hw.nodup
  rw [hall] at hnodup
  cases reply with
  | some success =>
    have hperm : (MapUnmap.receive r (some success) { w with wire := rest }).unanswered.Perm
        w.unanswered := by
      rw [hall]
      show (rest ++ (w.events ++ [(⟨r, success⟩ : Answer)]).map Answer.request).Perm _
      rw [List.map_append, ← List.append_assoc]
      exact List.perm_append_singleton _ _
    refine ⟨hperm.nodup_iff.mpr hw.nodup, ?_, ?_, ?_, ?_, ?_, hw.correlated.honest⟩
    · intro q hq
      exact hw.sent q (hperm.mem_iff.mp hq)
    · intro q hq
      exact hw.waited q (hperm.mem_iff.mp hq)
    · intro a ha
      obtain ⟨h1, h2, h3⟩ := hw.slot a ha
      exact ⟨h1, fun h => h2 (hperm.mem_iff.mp h), List.mem_cons_of_mem _ h3⟩
    · intro a ha
      rcases List.mem_append.mp ha with ha | ha
      · exact List.mem_cons_of_mem _ (hw.events a ha)
      · rw [List.mem_singleton.mp ha]
        exact List.mem_cons_self ..
    · intro x hx a ha
      obtain ⟨h1, h2⟩ := hw.correlated.own x hx a ha
      exact ⟨h1, List.mem_cons_of_mem _ h2⟩
  | none =>
    have hsub : ∀ q ∈ rest ++ w.events.map Answer.request, q ∈ w.unanswered := fun q hq => by
      rw [hall]
      exact List.mem_cons_of_mem _ hq
    refine ⟨(List.nodup_cons.mp hnodup).2, fun q hq => hw.sent q (hsub q hq),
      fun q hq => hw.waited q (hsub q hq), ?_, hw.events, ⟨hw.correlated.own, hw.correlated.honest⟩⟩
    intro a ha
    obtain ⟨h1, h2, h3⟩ := hw.slot a ha
    exact ⟨h1, fun h => h2 (hsub _ h), h3⟩

theorem deliver (hw : Inv w) {a : Answer} {rest : List Answer} (hev : w.events = a :: rest)
    (hin : ¬TimedOut w a.request) : Inv { w with events := rest, evtRcvd := some a } := by
  have hperm : w.unanswered.Perm (a.request :: (w.wire ++ rest.map Answer.request)) := by
    unfold World.unanswered
    rw [hev]
    exact List.perm_middle
  have hnodup := List.nodup_cons.mp (hperm.nodup_iff.mp hw.nodup)
  have hmem : a ∈ w.events := by rw [hev]; exact List.mem_cons_self ..
  have hsub : ∀ q ∈ w.wire ++ rest.map Answer.request, q ∈ w.unanswered := fun q hq =>
    hperm.mem_iff.mpr (List.mem_cons_of_mem _ hq)
  refine ⟨hnodup.2, fun q hq => hw.sent q (hsub q hq),
    fun q hq => hw.waited q (hsub q hq), ?_, ?_, ⟨hw.correlated.own, hw.correlated.honest⟩⟩
  · intro b hb
    obtain rfl := Option.some.inj hb
    refine ⟨(hw.waited _ (hperm.mem_iff.mpr (List.mem_cons_self ..))).resolve_right hin, hnodup.1,
      hw.events _ hmem⟩
  · intro b hb
    exact hw.events b (by rw [hev]; exact List.mem_cons_of_mem _ hb)

theorem step (hw : Inv w) {e : Event} (he : InTime w e) (h : step w e = some w') : Inv w' := by
  cases e with
  | lock =>
    obtain ⟨hc, rfl⟩ := (Option.ite_none_right_eq_some.mp h).imp_right Option.some.inj
    exact hw.move (by rw [hc]; rfl)
  | send ok =>
    obtain ⟨hc, rfl⟩ := (Option.ite_none_right_eq_some.mp h).imp_right Option.some.inj
    exact hw.sendmsg hc ok
  | look =>
    have hturn : ∀ r, w.caller.request = some r → Inv (look r w) := fun r hr => by
      unfold look
      cases hs : w.evtRcvd with
      | some a => exact hw.endWait hr (.inr hs)
      | none =>
        have hm := hw.move (c := .waiting r) hr.symm
        rw [hs] at hm
        exact hm
    simp only [MapUnmap.step] at h
    split at h
    · rename_i r hc
      exact Option.some.inj h ▸ hturn r (by rw [hc]; rfl)
    · rename_i r hc
      exact Option.some.inj h ▸ hturn r (by rw [hc]; rfl)
    · cases h
  | timeout =>
    simp only [MapUnmap.step] at h
    split at h
    · rename_i r hc
      exact Option.some.inj h ▸ hw.endWait (by rw [hc]; rfl) (.inl rfl)
    · cases h
  | unlock =>
    obtain ⟨hc, rfl⟩ := (Option.ite_none_right_eq_some.mp h).imp_right Option.some.inj
    exact hw.move (by rw [hc]; rfl)
  | receive reply =>
    simp only [MapUnmap.step] at h
    split at h
    · rename_i r rest hwire
      exact Option.some.inj h ▸ hw.receive hwire reply
    · cases h
  | deliver =>
    simp only [MapUnmap.step] at h
    split at h
    · rename_i a rest hev
      exact Option.some.inj h ▸ hw.deliver hev (he a (by rw [hev]; rfl))
    · cases h

end Inv

theorem init_inv : Inv {} :=
  ⟨List.nodup_nil, nofun, nofun, nofun, nofun, ⟨nofun, nofun⟩⟩

/-- Over every order of sends, answers, deliveries and time-outs in which no answer comes late,
each call is decided by the answer to its own message. -/
theorem answers_correlated {es : List Event} {w : World} (hin : Runs.Along step InTime {} es)
    (h : Runs.play step {} es = some w) : Correlated w :=
  (Runs.play_invariant (fun _ _ _ hu he hv => Inv.step hu he hv) init_inv hin h).correlated

/-- One call times out on a lost message, the next one is answered while it waits. -/
theorem answers_correlated_lost : ∃ w,
    Runs.play step {} [.lock, .send true, .look, .timeout, .unlock, .receive none, .lock, .send true,
      .look, .receive (some true), .deliver, .look, .unlock] = some w ∧ Correlated w :=
  ⟨_, rfl, @answers_correlated [.lock, .send true, .look, .timeout, .unlock, .receive none, .lock,
    .send true, .look, .receive (some true), .deliver, .look, .unlock] _ (by decide) rfl⟩

/-- The answer to a call that timed out makes the next call succeed, whose message nobody has
read. -/
theorem late_answer_decides : ¬∀ (es : List Event) (w : World), Runs.play step {} es = some w →
    Correlated w := by
  intro h
  have hs := h [.lock, .send true, .look, .timeout, .unlock, .receive (some true), .deliver, .lock,
    .send true, .look] _ rfl
  exact absurd (hs.own ⟨some 1, some ⟨0, true⟩, 0⟩ (by decide) ⟨0, true⟩ rfl).1 (by decide)

end Wt88047.MapUnmap
