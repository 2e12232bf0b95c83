import Wt88047.Lib.Runs

/-! The helper thread of the daemon connection, from its launch to its end, and the launch that waits for it. The two
threads take their steps in any order. -/

namespace Wt88047.DmnThread

/-- Where `loc_eng_dmn_conn_launch_thelper` is; from `lock` on it is in `thelper_signal_wait`. -/
inductive LaunchPc
  | create
  | lock
  | test
  | waiting
  | relock
  | locked
  | unlocked
  | returned (result : Int)
  deriving DecidableEq

/-- Where `thelper_main` is. In `thelper_signal_ready` it keeps whether it is to end after that. -/
inductive MainPc
  | unborn
  | init
  | initFailed
  | signal (failed : Bool)
  | signalLocked (failed : Bool)
  | pre
  | preFailed
  | proc
  | procFailed
  | loopTest
  | post
  | ended
  deriving DecidableEq

structure Procs where
  init : Bool
  pre : Bool
  proc : Bool
  post : Bool

inductive Call
  | init
  | pre
  | proc
  | post
  deriving DecidableEq

inductive Party
  | launcher
  | helper
  deriving DecidableEq

/-- `initialised` is how the initialization has gone, once it is over, and `calls` the procedures called so far. -/
structure Thelper where
  threadExit : Bool := false
  threadReady : Bool := false
  threadMutex : Option Party := none
  launcher : LaunchPc := .create
  main : MainPc := .unborn
  initialised : Option Bool := none
  calls : List Call := []

inductive Creation
  | created
  | failed
  | unnoticed
  deriving DecidableEq

inductive Event
  | create (creation : Creation)
  | launcher
  | wake
  | main (result : Int)
  | unblock

def create (creation : Creation) (t : Thelper) : Option Thelper :=
  if t.launcher = .create then
    match creation with
    | .created => some { t with launcher := .lock, main := .init }
    | .failed => some { t with launcher := .returned (-1) }
    | .unnoticed => some { t with launcher := .lock }
  else none

def launchStep (t : Thelper) : Option Thelper :=
  match t.launcher with
  | .create => none
  | .lock => if t.threadMutex = none then some { t with threadMutex := some .launcher, launcher := .test } else none
  | .test =>
    some (if t.threadReady || t.threadExit then { t with launcher := .locked }
      else { t with threadMutex := none, launcher := .waiting })
  | .waiting => none
  | .relock =>
    if t.threadMutex = none then some { t with threadMutex := some .launcher, launcher := .locked } else none
  | .locked => some { t with threadMutex := none, launcher := .unlocked }
  | .unlocked => some { t with launcher := .returned (if t.threadExit then 1 else 0) }
  | .returned _ => none

/-- `pthread_cond_wait` ends, by a signal or without one. -/
def wake (t : Thelper) : Option Thelper :=
  if t.launcher = .waiting then some { t with launcher := .relock } else none

/-- A step of the helper; where it calls a procedure, `result` is what that returns. -/
def mainStep (procs : Procs) (result : Int) (t : Thelper) : Option Thelper :=
  match t.main with
  | .unborn => none
  | .init =>
    some (if procs.init then
        if result < 0 then
          { t with main := .initFailed, initialised := some false, calls := t.calls ++ [.init] }
        else { t with main := .signal false, initialised := some true, calls := t.calls ++ [.init] }
      else { t with main := .signal false, initialised := some true })
  | .initFailed => some { t with threadExit := true, main := .signal true }
  | .signal failed =>
    if t.threadMutex = none then some { t with threadMutex := some .helper, main := .signalLocked failed } else none
  | .signalLocked failed =>
    some { t with threadReady := true, threadMutex := none, main := if failed then .ended else .pre }
  | .pre =>
    some (if procs.pre then
        { t with main := if result < 0 then .preFailed else .proc, calls := t.calls ++ [.pre] }
      else { t with main := .proc })
  | .preFailed => some { t with threadExit := true, main := .ended }
  | .proc =>
    some (if procs.proc then
        { t with main := if result < 0 then .procFailed else .loopTest, calls := t.calls ++ [.proc] }
      else { t with main := .loopTest })
  | .procFailed => some { t with threadExit := true, main := .loopTest }
  | .loopTest => some { t with main := if t.threadExit then .post else .proc }
  | .post =>
    some (if procs.post then { t with main := .ended, calls := t.calls ++ [.post] } else { t with main := .ended })
  | .ended => none

/-- `unblock` is `loc_eng_dmn_conn_unblock_thelper`, from any other thread. -/
def step (procs : Procs) (t : Thelper) : Event → Option Thelper
  | .create creation => create creation t
  | .launcher => launchStep t
  | .wake => wake t
  | .main result => mainStep procs result t
  | .unblock => if t.launcher = .create then none else some { t with threadExit := true }

structure Started (procs : Procs) (t : Thelper) : Prop where
  success : t.launcher = .returned 0 → t.initialised = some true
  failure : ∀ result, t.launcher = .returned result → t.initialised = some false → result ≠ 0
  after_init : ∀ before c after, t.calls = before ++ c :: after → c ≠ .init →
    t.initialised = some true ∧ (procs.init = true → .init ∈ before)
  post_last : t.main = .ended → t.initialised = some true → procs.post = true →
    ∃ before, t.calls = before ++ [.post] ∧ .post ∉ before

/-- The wait ends only when its condition is met, and the procedure before the loop does not fail. -/
def Orderly (procs : Procs) (t : Thelper) : Event → Prop
  | .wake => t.threadReady = true ∨ t.threadExit = true
  | .main result => t.main = .pre → procs.pre = true → 0 ≤ result
  | _ => True

instance (procs : Procs) (t : Thelper) : (e : Event) → Decidable (Orderly procs t e)
  | .wake => inferInstanceAs (Decidable (_ ∨ _))
  | .main _ => inferInstanceAs (Decidable (_ → _ → _))
  | .create _ => inferInstanceAs (Decidable True)
  | .launcher => inferInstanceAs (Decidable True)
  | .unblock => inferInstanceAs (Decidable True)

def early (procs : Procs) : List Call := if procs.init then [.init] else []

def Running (procs : Procs) (t : Thelper) : Prop :=
  t.initialised = some true ∧ ∃ mid, t.calls = early procs ++ mid ∧ ∀ c ∈ mid, c = .pre ∨ c = .proc

def InitFailed (t : Thelper) : Prop := t.initialised = some false ∧ t.calls = [.init]

def Progress (procs : Procs) (t : Thelper) : Prop :=
  match t.main with
  | .unborn | .init => t.initialised = none ∧ t.calls = [] ∧ t.threadReady = false
  | .initFailed => InitFailed t ∧ t.threadReady = false
  | .signal failed | .signalLocked failed =>
    (if failed then InitFailed t ∧ t.threadExit = true else Running procs t) ∧ t.threadReady = false
  | .preFailed => False
  | .pre | .proc | .procFailed | .loopTest | .post => Running procs t
  | .ended =>
    InitFailed t ∧ t.threadExit = true ∨
      t.initialised = some true ∧ ∃ mid, t.calls = early procs ++ mid ++ (if procs.post then [.post] else []) ∧
        ∀ c ∈ mid, c = .pre ∨ c = .proc

theorem Running.call {procs : Procs} {t t' : Thelper} (h : Running procs t) {c : Call} (hc : c = .pre ∨ c = .proc)
    (hinit : t'.initialised = t.initialised) (hcalls : t'.calls = t.calls ++ [c]) : Running procs t' := by
  obtain ⟨hstarted, mid, hmid, hall⟩ := h
  refine ⟨hinit.trans hstarted, mid ++ [c], by rw [hcalls, hmid, List.append_assoc], fun d hd => ?_⟩
  rcases List.mem_append.mp hd with hd | hd
  · exact hall d hd
  · rw [List.mem_singleton.mp hd]
    exact hc

theorem Progress.ready {procs : Procs} {t : Thelper} (h : Progress procs t) (hready : t.threadReady = true) :
    t.initialised = some true ∨ t.threadExit = true := by
  have hnot : t.threadReady ≠ false := by rw [hready]; decide
  unfold Progress at h
  cases hmain : t.main <;> rw [hmain] at h <;> dsimp only at h
  case unborn => exact absurd h.2.2 hnot
  case init => exact absurd h.2.2 hnot
  case initFailed => exact absurd h.2 hnot
  case signal => exact absurd h.2 hnot
  case signalLocked => exact absurd h.2 hnot
  case ended =>
    rcases h with h | h
    · exact .inr h.2
    · exact .inl h.1
  all_goals exact .inl h.1

theorem mainStep_progress {procs : Procs} {result : Int} {t t' : Thelper} (h : Progress procs t)
    (hpre : t.main = .pre → procs.pre = true → 0 ≤ result) (hstep : mainStep procs result t = some t') :
    Progress procs t' := by
  unfold Progress at h
  cases hmain : t.main with
  | unborn =>
    rw [mainStep, hmain] at hstep
    cases hstep
  | init =>
    rw [hmain] at h
    obtain ⟨-, hcalls, hready⟩ := h
    rw [mainStep, hmain] at hstep
    obtain rfl := Option.some.inj hstep
    unfold Progress
    by_cases hinit : procs.init = true
    · by_cases hresult : result < 0
      · rw [if_pos hinit, if_pos hresult]
        exact ⟨⟨rfl, by rw [hcalls]; rfl⟩, hready⟩
      · rw [if_pos hinit, if_neg hresult]
        exact ⟨⟨rfl, [], by simp [hcalls, early, hinit], by simp⟩, hready⟩
    · rw [if_neg hinit]
      exact ⟨⟨rfl, [], by simp [hcalls, early, hinit], by simp⟩, hready⟩
  | initFailed =>
    rw [hmain] at h
    rw [mainStep, hmain] at hstep
    obtain rfl := Option.some.inj hstep
    exact ⟨⟨h.1, rfl⟩, h.2⟩
  | signal failed =>
    rw [hmain] at h
    rw [mainStep, hmain] at hstep
    dsimp only at hstep
    split at hstep
    · obtain rfl := Option.some.inj hstep
      exact h
    · cases hstep
  | signalLocked failed =>
    rw [hmain] at h
    rw [mainStep, hmain] at hstep
    obtain rfl := Option.some.inj hstep
    cases failed with
    | false => exact h.1
    | true => exact .inl h.1
  | pre =>
    rw [hmain] at h
    rw [mainStep, hmain] at hstep
    obtain rfl := Option.some.inj hstep
    by_cases hp : procs.pre = true
    · have hresult : ¬ result < 0 := Int.not_lt.mpr (hpre hmain hp)
      rw [if_pos hp, if_neg hresult]
      exact Running.call h (.inl rfl) rfl rfl
    · rw [if_neg hp]
      exact h
  | preFailed =>
    rw [hmain] at h
    exact h.elim
  | proc =>
    rw [hmain] at h
    rw [mainStep, hmain] at hstep
    obtain rfl := Option.some.inj hstep
    by_cases hp : procs.proc = true
    · rw [if_pos hp]
      by_cases hresult : result < 0
      · rw [if_pos hresult]
        exact Running.call h (.inr rfl) rfl rfl
      · rw [if_neg hresult]
        exact Running.call h (.inr rfl) rfl rfl
    · rw [if_neg hp]
      exact h
  | procFailed =>
    rw [hmain] at h
    rw [mainStep, hmain] at hstep
    obtain rfl := Option.some.inj hstep
    exact h
  | loopTest =>
    rw [hmain] at h
    rw [mainStep, hmain] at hstep
    obtain rfl := Option.some.inj hstep
    cases hexit : t.threadExit with
    | false => exact h
    | true => exact h
  | post =>
    rw [hmain] at h
    obtain ⟨hstarted, mid, hmid, hall⟩ := h
    rw [mainStep, hmain] at hstep
    obtain rfl := Option.some.inj hstep
    by_cases hp : procs.post = true
    · rw [if_pos hp]
      exact .inr ⟨hstarted, mid, by rw [if_pos hp, hmid], hall⟩
    · rw [if_neg hp]
      exact .inr ⟨hstarted, mid, by rw [if_neg hp, hmid, List.append_nil], hall⟩
  | ended =>
    rw [mainStep, hmain] at hstep
    cases hstep

structure Onward (t t' : Thelper) : Prop where
  ready : t.threadReady = true → t'.threadReady = true
  exit : t.threadExit = true → t'.threadExit = true
  initialised : t.initialised = some true → t'.initialised = some true

theorem mainStep_onward {procs : Procs} {result : Int} {t t' : Thelper} (h : Progress procs t)
    (hstep : mainStep procs result t = some t') : Onward t t' ∧ t'.launcher = t.launcher := by
  unfold mainStep at hstep
  unfold Progress at h
  cases hmain : t.main <;> rw [hmain] at hstep h <;> dsimp only at hstep h
  case unborn => cases hstep
  case ended => cases hstep
  case init =>
    have hnone : t.initialised ≠ some true := by rw [h.1]; exact nofun
    obtain rfl := Option.some.inj hstep
    split
    · split <;> exact ⟨⟨id, id, fun hs => absurd hs hnone⟩, rfl⟩
    · exact ⟨⟨id, id, fun hs => absurd hs hnone⟩, rfl⟩
  case signal =>
    split at hstep
    · obtain rfl := Option.some.inj hstep
      exact ⟨⟨id, id, id⟩, rfl⟩
    · cases hstep
  case initFailed =>
    obtain rfl := Option.some.inj hstep
    exact ⟨⟨id, fun _ => rfl, id⟩, rfl⟩
  case procFailed =>
    obtain rfl := Option.some.inj hstep
    exact ⟨⟨id, fun _ => rfl, id⟩, rfl⟩
  case signalLocked =>
    obtain rfl := Option.some.inj hstep
    exact ⟨⟨fun _ => rfl, id, id⟩, rfl⟩
  case loopTest =>
    obtain rfl := Option.some.inj hstep
    exact ⟨⟨id, id, id⟩, rfl⟩
  all_goals
    obtain rfl := Option.some.inj hstep
    split <;> exact ⟨⟨id, id, id⟩, rfl⟩

structure Beside (t t' : Thelper) : Prop where
  main : t'.main = t.main
  ready : t'.threadReady = t.threadReady
  exit : t.threadExit = true → t'.threadExit = true
  initialised : t'.initialised = t.initialised
  calls : t'.calls = t.calls

theorem Progress.beside {procs : Procs} {t t' : Thelper} (h : Progress procs t) (hb : Beside t t') :
    Progress procs t' := by
  unfold Progress at h ⊢
  rw [hb.main]
  cases hmain : t.main <;> rw [hmain] at h <;>
    simp only [InitFailed, Running, hb.initialised, hb.calls, hb.ready] at h ⊢
  case signal failed =>
    refine ⟨?_, h.2⟩
    cases failed with
    | false => exact h.1
    | true => exact ⟨h.1.1, hb.exit h.1.2⟩
  case signalLocked failed =>
    refine ⟨?_, h.2⟩
    cases failed with
    | false => exact h.1
    | true => exact ⟨h.1.1, hb.exit h.1.2⟩
  case ended => exact h.imp_left fun h => ⟨h.1, hb.exit h.2⟩
  all_goals exact h

structure Inv (procs : Procs) (t : Thelper) : Prop where
  progress : Progress procs t
  waited : t.launcher = .relock ∨ t.launcher = .locked ∨ t.launcher = .unlocked →
    t.threadReady = true ∨ t.threadExit = true
  returned : t.launcher = .returned 0 → t.initialised = some true
  created : t.launcher = .create → t.main = .unborn

theorem launchStep_inv {procs : Procs} {t t' : Thelper} (h : Inv procs t) (hstep : launchStep t = some t') :
    Inv procs t' := by
  unfold launchStep at hstep
  cases hl : t.launcher <;> rw [hl] at hstep <;> dsimp only at hstep
  case create => cases hstep
  case waiting => cases hstep
  case returned => cases hstep
  case lock =>
    split at hstep
    · obtain rfl := Option.some.inj hstep
      exact ⟨h.progress.beside ⟨rfl, rfl, id, rfl, rfl⟩, by simp, nofun, nofun⟩
    · cases hstep
  case test =>
    obtain rfl := Option.some.inj hstep
    split
    · rename_i hset
      exact ⟨h.progress.beside ⟨rfl, rfl, id, rfl, rfl⟩, fun _ => by simpa using hset, nofun, nofun⟩
    · exact ⟨h.progress.beside ⟨rfl, rfl, id, rfl, rfl⟩, by simp, nofun, nofun⟩
  case relock =>
    split at hstep
    · obtain rfl := Option.some.inj hstep
      exact ⟨h.progress.beside ⟨rfl, rfl, id, rfl, rfl⟩, fun _ => h.waited (.inl hl), nofun, nofun⟩
    · cases hstep
  case locked =>
    obtain rfl := Option.some.inj hstep
    exact ⟨h.progress.beside ⟨rfl, rfl, id, rfl, rfl⟩, fun _ => h.waited (.inr (.inl hl)), nofun, nofun⟩
  case unlocked =>
    obtain rfl := Option.some.inj hstep
    refine ⟨h.progress.beside ⟨rfl, rfl, id, rfl, rfl⟩, by simp, fun hzero => ?_, nofun⟩
    cases hexit : t.threadExit with
    | true =>
      rw [hexit] at hzero
      cases hzero
    | false =>
      have hnot : ¬ t.threadExit = true := by rw [hexit]; exact Bool.false_ne_true
      have hready := (h.waited (.inr (.inr hl))).resolve_right hnot
      exact (h.progress.ready hready).resolve_right hnot

theorem step_inv {procs : Procs} {t t' : Thelper} {e : Event} (h : Inv procs t) (horderly : Orderly procs t e)
    (hstep : step procs t e = some t') : Inv procs t' := by
  cases e with
  | create creation =>
    unfold step create at hstep
    dsimp only at hstep
    split at hstep
    · rename_i hcreate
      have hp := h.progress
      unfold Progress at hp
      rw [h.created hcreate] at hp
      cases creation <;> obtain rfl := Option.some.inj hstep
      case created => exact ⟨hp, by simp, nofun, nofun⟩
      case failed => exact ⟨h.progress.beside ⟨rfl, rfl, id, rfl, rfl⟩, by simp, by simp, nofun⟩
      case unnoticed => exact ⟨h.progress.beside ⟨rfl, rfl, id, rfl, rfl⟩, by simp, nofun, nofun⟩
    · cases hstep
  | launcher => exact launchStep_inv h hstep
  | wake =>
    unfold step wake at hstep
    dsimp only at hstep
    split at hstep
    · obtain rfl := Option.some.inj hstep
      exact ⟨h.progress.beside ⟨rfl, rfl, id, rfl, rfl⟩, fun _ => horderly, nofun, nofun⟩
    · cases hstep
  | main result =>
    obtain ⟨honward, hlauncher⟩ := mainStep_onward h.progress hstep
    refine ⟨mainStep_progress h.progress horderly hstep, fun hl => ?_, fun hl => ?_, fun hl => ?_⟩
    · rw [hlauncher] at hl
      exact (h.waited hl).imp honward.ready honward.exit
    · rw [hlauncher] at hl
      exact honward.initialised (h.returned hl)
    · rw [hlauncher] at hl
      have hmain := h.created hl
      change mainStep procs result t = some t' at hstep
      rw [mainStep, hmain] at hstep
      cases hstep
  | unblock =>
    unfold step at hstep
    dsimp only at hstep
    split at hstep
    · cases hstep
    · rename_i hcreate
      obtain rfl := Option.some.inj hstep
      exact ⟨h.progress.beside ⟨rfl, rfl, fun _ => rfl, rfl, rfl⟩, fun _ => .inr rfl, h.returned,
        fun hl => absurd hl hcreate⟩

theorem inv_initial (procs : Procs) : Inv procs {} := ⟨⟨rfl, rfl, rfl⟩, by simp, nofun, fun _ => rfl⟩

theorem init_mem_before {rest before after : List Call} {c : Call} (h : .init :: rest = before ++ c :: after)
    (hc : c ≠ .init) : .init ∈ before := by
  cases before with
  | nil => exact absurd (List.cons.inj h).1.symm hc
  | cons d before =>
    rw [(List.cons.inj h).1]
    exact List.mem_cons_self

theorem called_after_init {procs : Procs} {t : Thelper} (hstarted : t.initialised = some true) {rest : List Call}
    (hrest : t.calls = early procs ++ rest) {before after : List Call} {c : Call}
    (hcalls : t.calls = before ++ c :: after) (hc : c ≠ .init) :
    t.initialised = some true ∧ (procs.init = true → .init ∈ before) := by
  refine ⟨hstarted, fun hinit => ?_⟩
  rw [hrest, early, if_pos hinit] at hcalls
  exact init_mem_before hcalls hc

theorem Inv.started {procs : Procs} {t : Thelper} (h : Inv procs t) : Started procs t where
  success := h.returned
  failure result hreturned hfailed hzero := by
    rw [hzero] at hreturned
    rw [h.returned hreturned] at hfailed
    cases hfailed
  after_init before c after hcalls hc := by
    have hfailed : InitFailed t → t.initialised = some true ∧ (procs.init = true → .init ∈ before) := fun hf => by
      have hmem : c ∈ t.calls := hcalls ▸ List.mem_append_right before List.mem_cons_self
      rw [hf.2] at hmem
      exact absurd (List.mem_singleton.mp hmem) hc
    have hp := h.progress
    unfold Progress at hp
    cases hmain : t.main <;> rw [hmain] at hp <;> dsimp only at hp
    case unborn => rw [hp.2.1] at hcalls; simp at hcalls
    case init => rw [hp.2.1] at hcalls; simp at hcalls
    case initFailed => exact hfailed hp.1
    case signal failed =>
      cases failed with
      | false => exact hp.1.2.elim fun mid hmid => called_after_init hp.1.1 hmid.1 hcalls hc
      | true => exact hfailed hp.1.1
    case signalLocked failed =>
      cases failed with
      | false => exact hp.1.2.elim fun mid hmid => called_after_init hp.1.1 hmid.1 hcalls hc
      | true => exact hfailed hp.1.1
    case ended =>
      rcases hp with hp | ⟨hstarted, mid, hmid, -⟩
      · exact hfailed hp.1
      · exact called_after_init hstarted (hmid.trans (List.append_assoc _ _ _)) hcalls hc
    all_goals exact hp.2.elim fun mid hmid => called_after_init hp.1 hmid.1 hcalls hc
  post_last hended hstarted hpost := by
    have hp := h.progress
    unfold Progress at hp
    rw [hended] at hp
    rcases hp with hp | ⟨-, mid, hmid, hall⟩
    · rw [hp.1.1] at hstarted
      cases hstarted
    · rw [if_pos hpost] at hmid
      refine ⟨early procs ++ mid, hmid, fun hmem => ?_⟩
      rcases List.mem_append.mp hmem with hmem | hmem
      · unfold early at hmem
        split at hmem <;> simp at hmem
      · rcases hall _ hmem with h | h <;> cases h

/-- In every run in which the wait ends as it should and the procedure before the loop does not fail. -/
theorem thread_starts_and_ends (procs : Procs) (es : List Event) (t : Thelper)
    (horderly : Runs.Along (step procs) (Orderly procs) {} es) (hrun : Runs.play (step procs) {} es = some t) :
    Started procs t :=
  (Runs.play_invariant (fun _ _ _ hi ho hs => step_inv hi ho hs) (inv_initial procs) horderly hrun).started

def allProcs : Procs := ⟨true, true, true, true⟩

def session : List Event :=
  [.create .created, .launcher, .launcher, .main 0, .main 0, .main 0, .wake, .launcher, .launcher, .launcher,
    .main 0, .main 0, .main 0, .main (-1), .main 0, .main 0, .main 0]

theorem thread_starts_and_ends_session :
    Started allProcs ⟨true, true, none, .returned 0, .ended, some true, [.init, .pre, .proc, .proc, .post]⟩ :=
  thread_starts_and_ends allProcs session _ (by decide) rfl

/-- A wake-up without a signal, before an initialization that fails; and a procedure before the loop that fails. -/
theorem launch_succeeds_before_failed_init :
    (Runs.play (step allProcs) {}
        [.create .created, .launcher, .launcher, .wake, .launcher, .launcher, .launcher, .main (-1)]).map
      (fun t => (t.launcher, t.initialised)) = some (.returned 0, some false) ∧
    (Runs.play (step allProcs) {} [.create .created, .main 0, .main 0, .main 0, .main (-1), .main 0]).map
      (fun t => (t.main, t.initialised, t.calls)) = some (.ended, some true, [.init, .pre]) := ⟨rfl, rfl⟩

end Wt88047.DmnThread
