import Mathlib.Data.List.Basic

/-! One encode session of the JPEG interface and the OMX component behind its handle: the buffers
registered on the ports, the state changes and the teardown. What OMX answers is an argument. -/

namespace Jpeg

inductive OmxState where
  | loaded
  | idle
  | executing
  | pause
deriving DecidableEq

inductive OmxError where
  | none
  | overflow
  | other (code : Nat)
deriving DecidableEq

abbrev OmxBuffer := Nat × Nat

structure Component where
  state : OmxState := .loaded
  inUse : List OmxBuffer := []
  freed : List OmxBuffer := []
  freeHandle : Nat := 0
deriving DecidableEq

structure Slot where
  client : Nat
  idx : Nat
deriving DecidableEq

structure WorkBuffer where
  addr : Nat := 0
  size : Nat := 0
  fd : Int := 0
deriving DecidableEq

structure EncodeParams where
  numSrcBufs : Nat := 0
  numTmbBufs : Nat := 0
  numDstBufs : Nat := 0
  burstMode : Bool := false
  jpegCb : Bool := false
deriving DecidableEq

/-- `mm_jpeg_encode_job_t`. The source has no `serial`: it numbers the accepted jobs, so that a
callback can be traced to the job it answers. -/
structure EncodeJob where
  sessionId : Nat := 0
  srcIndex : Int := 0
  dstIndex : Int := 0
  width : Int := 0
  height : Int := 0
  workBuf : WorkBuffer := {}
  serial : Nat := 0
deriving DecidableEq

inductive AbortState where
  | none
  | init
  | done
deriving DecidableEq

/-- `mm_jpeg_job_session_t`. `nextSession` lists the sessions met by following `next_session`;
`queues` names the pair `session_handle_q` and `out_buf_q`, which a chain shares. -/
structure Session where
  clientHdl : Nat := 0
  jobId : Nat := 0
  sessionId : Nat := 0
  params : EncodeParams := {}
  encodeJob : EncodeJob := {}
  stateChangePending : Bool := false
  errorFlag : OmxError := .none
  abortState : AbortState := .none
  omxHandle : Option Nat := .none
  active : Bool := false
  config : Bool := false
  jobHist : Nat := 0
  encoding : Bool := false
  workBuffer : WorkBuffer := {}
  nextSession : List Slot := []
  autoOutBuf : Bool := false
  queues : Option Nat := .none
deriving DecidableEq

def EncodeParams.headers (p : EncodeParams) : List OmxBuffer :=
  (List.range p.numSrcBufs).map (Prod.mk 0) ++ (List.range p.numTmbBufs).map (Prod.mk 2) ++
    (List.range p.numDstBufs).map (Prod.mk 1)

def useBuffers (ok : OmxBuffer → Bool) : List OmxBuffer → Component → Component × Bool
  | [], c => (c, true)
  | b :: bs, c => if ok b then useBuffers ok bs { c with inUse := c.inUse ++ [b] } else (c, false)

def releaseBuffers (ok : OmxBuffer → Bool) : List OmxBuffer → Component → Component × Bool
  | [], c => (c, true)
  | b :: bs, c =>
    if ok b then releaseBuffers ok bs { c with freed := c.freed ++ [b] } else (c, false)

def sessionSendBuffers (ok : OmxBuffer → Bool) (p : EncodeParams) (c : Component) :
    Component × Bool :=
  useBuffers ok p.headers c

def sessionFreeBuffers (ok : OmxBuffer → Bool) (p : EncodeParams) (c : Component) :
    Component × Bool :=
  releaseBuffers ok p.headers c

/-- What happens during one change of state: the answers of `OMX_GetState` and `OMX_SendCommand`,
the error event that comes in before `error_flag` is checked, the answers for the buffers, and
whether the component enters the state. -/
structure Change where
  getState : Bool := true
  sendCommand : Bool := true
  event : Option OmxError := none
  buffers : OmxBuffer → Bool := fun _ => true
  reached : Bool := true

def Component.enter (c : Component) (new : OmxState) (reached : Bool) : Component :=
  if reached then { c with state := new } else c

def changeState (new : OmxState)
    (exec : Option ((OmxBuffer → Bool) → EncodeParams → Component → Component × Bool)) (o : Change)
    (s : Session) (c : Component) : Session × Component × Bool :=
  if !o.getState then (s, c, false)
  else if c.state = new then (s, c, true)
  else if !o.sendCommand then ({ s with stateChangePending := true }, c, false)
  else
    let flag := o.event.getD s.errorFlag
    let c := c.enter new o.reached
    if flag ≠ .none ∧ flag ≠ .overflow then
      ({ s with stateChangePending := true, errorFlag := flag }, c, false)
    else match exec with
      | none => ({ s with stateChangePending := !o.reached, errorFlag := flag }, c, true)
      | some f =>
        let r := f o.buffers s.params c
        if r.2 then ({ s with stateChangePending := !o.reached, errorFlag := flag }, r.1, true)
        else ({ s with stateChangePending := true, errorFlag := flag }, r.1, false)

structure Configure where
  main : Bool := true
  idle : Change := {}
  executing : Change := {}

def sessionConfigure (o : Configure) (s : Session) (c : Component) : Session × Component × Bool :=
  if s.abortState = .init then (s, c, true)
  else if !o.main then (s, c, false)
  else
    let r := changeState .idle (some sessionSendBuffers) o.idle s c
    if r.2.2 then changeState .executing none o.executing r.1 r.2.1 else r

/-- The OMX answers of one teardown; where the first `OMX_GetState` fails, `unread` is what the
variable `state` holds. -/
structure Teardown where
  unread : Option OmxState := none
  toIdle : Change := {}
  getState : Bool := true
  toLoaded : Change := {}
  freeHandle : Bool := true

/-- `mm_jpeg_session_destroy` for one session with a handle. -/
def sessionTeardown (o : Teardown) (s : Session) (c : Component) : Session × Component :=
  let state := o.unread.getD c.state
  let r := if state = .executing ∨ state = .pause then changeState .idle none o.toIdle s c
    else (s, c, true)
  let state := if o.getState then r.2.1.state else state
  let r := if state = .idle then
      changeState .loaded (some sessionFreeBuffers) o.toLoaded r.1 r.2.1
    else r
  ({ r.1 with omxHandle := none },
    if o.freeHandle then { r.2.1 with freeHandle := r.2.1.freeHandle + 1 } else r.2.1)

theorem changeState_session (new : OmxState)
    (exec : Option ((OmxBuffer → Bool) → EncodeParams → Component → Component × Bool)) (o : Change)
    (s : Session) (c : Component) :
    ∃ p f, (changeState new exec o s c).1 = { s with stateChangePending := p, errorFlag := f } := by
  unfold changeState
  dsimp only
  split_ifs
  · exact ⟨_, _, rfl⟩
  · exact ⟨_, _, rfl⟩
  · exact ⟨_, _, rfl⟩
  · exact ⟨_, _, rfl⟩
  · cases exec with
    | none => exact ⟨_, _, rfl⟩
    | some f =>
      dsimp only
      by_cases hf : (f o.buffers s.params (c.enter new o.reached)).2 = true
      · rw [if_pos hf]
        exact ⟨_, _, rfl⟩
      · rw [if_neg hf]
        exact ⟨_, _, rfl⟩

theorem sessionConfigure_session (o : Configure) (s : Session) (c : Component) :
    ∃ p f, (sessionConfigure o s c).1 = { s with stateChangePending := p, errorFlag := f } := by
  unfold sessionConfigure
  dsimp only
  obtain ⟨p, f, hidle⟩ := changeState_session .idle (some sessionSendBuffers) o.idle s c
  split_ifs
  · exact ⟨_, _, rfl⟩
  · exact ⟨_, _, rfl⟩
  · obtain ⟨p', f', hexec⟩ := changeState_session .executing none o.executing
      (changeState .idle (some sessionSendBuffers) o.idle s c).1
      (changeState .idle (some sessionSendBuffers) o.idle s c).2.1
    rw [hexec, hidle]
    exact ⟨_, _, rfl⟩
  · exact ⟨_, _, hidle⟩

theorem sessionTeardown_session (o : Teardown) (s : Session) (c : Component) :
    ∃ p f, (sessionTeardown o s c).1 =
      { s with stateChangePending := p, errorFlag := f, omxHandle := none } := by
  have hidle : ∃ p f, (if o.unread.getD c.state = .executing ∨ o.unread.getD c.state = .pause then
      changeState .idle none o.toIdle s c else (s, c, true)).1 =
        { s with stateChangePending := p, errorFlag := f } := by
    split_ifs
    · exact changeState_session ..
    · exact ⟨_, _, rfl⟩
  unfold sessionTeardown
  dsimp only
  generalize (if o.unread.getD c.state = .executing ∨ o.unread.getD c.state = .pause then
      changeState .idle none o.toIdle s c else (s, c, true)) = r at hidle ⊢
  obtain ⟨p, f, hidle⟩ := hidle
  by_cases h : (if o.getState then r.2.1.state else o.unread.getD c.state) = .idle
  · rw [if_pos h]
    obtain ⟨p', f', hloaded⟩ := changeState_session .loaded (some sessionFreeBuffers) o.toLoaded
      r.1 r.2.1
    rw [hloaded, hidle]
    exact ⟨_, _, rfl⟩
  · rw [if_neg h, hidle]
    exact ⟨_, _, rfl⟩

theorem changeState_keeps {P : Component → Prop} {new : OmxState}
    (exec : Option ((OmxBuffer → Bool) → EncodeParams → Component → Component × Bool))
    (henter : ∀ c reached, P c → P (c.enter new reached))
    (o : Change) (s : Session) (c : Component) (hexec : ∀ f ∈ exec, ∀ ok c, P c → P (f ok s.params c).1)
    (hc : P c) : P (changeState new exec o s c).2.1 := by
  unfold changeState
  dsimp only
  split_ifs
  · exact hc
  · exact hc
  · exact hc
  · exact henter _ _ hc
  · cases exec with
    | none => exact henter _ _ hc
    | some f =>
      have hf := hexec f rfl o.buffers _ (henter c o.reached hc)
      dsimp only
      by_cases h : (f o.buffers s.params (c.enter new o.reached)).2 = true
      · rw [if_pos h]
        exact hf
      · rw [if_neg h]
        exact hf

theorem enter_freed (c : Component) (new : OmxState) (reached : Bool) :
    (c.enter new reached).freed = c.freed ∧ (c.enter new reached).freeHandle = c.freeHandle := by
  cases reached <;> exact ⟨rfl, rfl⟩

theorem useBuffers_freed (ok : OmxBuffer → Bool) (bs : List OmxBuffer) (c : Component) :
    (useBuffers ok bs c).1.freed = c.freed ∧ (useBuffers ok bs c).1.freeHandle = c.freeHandle := by
  induction bs generalizing c with
  | nil => exact ⟨rfl, rfl⟩
  | cons b bs ih =>
    rw [useBuffers]
    split
    · exact ih _
    · exact ⟨rfl, rfl⟩

theorem sessionConfigure_freed (o : Configure) (s : Session) (c : Component) :
    (sessionConfigure o s c).2.1.freed = c.freed ∧
      (sessionConfigure o s c).2.1.freeHandle = c.freeHandle := by
  have henter : ∀ new (d : Component) reached, d.freed = c.freed ∧ d.freeHandle = c.freeHandle →
      (d.enter new reached).freed = c.freed ∧ (d.enter new reached).freeHandle = c.freeHandle :=
    fun new d reached hd =>
      ⟨(enter_freed d new reached).1.trans hd.1, (enter_freed d new reached).2.trans hd.2⟩
  have hidle := changeState_keeps (some sessionSendBuffers) (henter .idle) o.idle s c
    (fun f hf ok d hd => by
      obtain rfl := Option.some.inj hf
      exact ⟨(useBuffers_freed ok _ d).1.trans hd.1, (useBuffers_freed ok _ d).2.trans hd.2⟩)
    ⟨rfl, rfl⟩
  unfold sessionConfigure
  dsimp only
  split_ifs
  · exact ⟨rfl, rfl⟩
  · exact ⟨rfl, rfl⟩
  · exact changeState_keeps none (henter .executing) _ _ _ (fun f hf => by cases hf) hidle
  · exact hidle

theorem sessionTeardown_keeps {P : Component → Prop} {o : Teardown} {s : Session} {c : Component}
    (henter : ∀ d new reached, P d → P (d.enter new reached))
    (hfree : ∀ ok d, P d → P (sessionFreeBuffers ok s.params d).1) (hc : P c) :
    ∃ d, P d ∧ (sessionTeardown o s c).2 =
      if o.freeHandle then { d with freeHandle := d.freeHandle + 1 } else d := by
  have hidle : P (if o.unread.getD c.state = .executing ∨ o.unread.getD c.state = .pause then
        changeState .idle none o.toIdle s c else (s, c, true)).2.1 ∧
      (if o.unread.getD c.state = .executing ∨ o.unread.getD c.state = .pause then
        changeState .idle none o.toIdle s c else (s, c, true)).1.params = s.params := by
    split_ifs
    · refine ⟨changeState_keeps none (fun d => henter d _) _ _ _ (fun f hf => by cases hf) hc, ?_⟩
      obtain ⟨p, f, hs⟩ := changeState_session .idle none o.toIdle s c
      rw [hs]
    · exact ⟨hc, rfl⟩
  unfold sessionTeardown
  dsimp only
  generalize (if o.unread.getD c.state = .executing ∨ o.unread.getD c.state = .pause then
      changeState .idle none o.toIdle s c else (s, c, true)) = r at hidle ⊢
  obtain ⟨hr, hparams⟩ := hidle
  by_cases hst : (if o.getState then r.2.1.state else o.unread.getD c.state) = .idle
  · rw [if_pos hst]
    refine ⟨_, changeState_keeps _ (fun d => henter d _) o.toLoaded r.1 r.2.1 ?_ hr, rfl⟩
    intro f hf ok d hd
    obtain rfl := Option.some.inj hf
    rw [hparams]
    exact hfree ok d hd
  · rw [if_neg hst]
    exact ⟨_, hr, rfl⟩

theorem releaseBuffers_rest (ok : OmxBuffer → Bool) (bs : List OmxBuffer) (c : Component) :
    (releaseBuffers ok bs c).1.freeHandle = c.freeHandle ∧
      (releaseBuffers ok bs c).1.inUse = c.inUse := by
  induction bs generalizing c with
  | nil => exact ⟨rfl, rfl⟩
  | cons b bs ih =>
    rw [releaseBuffers]
    split
    · exact ih _
    · exact ⟨rfl, rfl⟩

theorem sessionTeardown_rest (o : Teardown) (s : Session) (c : Component) :
    (sessionTeardown o s c).2.freeHandle = c.freeHandle + o.freeHandle.toNat ∧
      (sessionTeardown o s c).2.inUse = c.inUse := by
  obtain ⟨d, ⟨hf, hu⟩, he⟩ := sessionTeardown_keeps (o := o) (s := s) (c := c)
    (P := fun d => d.freeHandle = c.freeHandle ∧ d.inUse = c.inUse)
    (fun d new reached hd => ⟨(enter_freed d new reached).2.trans hd.1, by
      cases reached
      · exact hd.2
      · exact hd.2⟩)
    (fun ok d hd => ⟨(releaseBuffers_rest ok _ d).1.trans hd.1, (releaseBuffers_rest ok _ d).2.trans hd.2⟩)
    ⟨rfl, rfl⟩
  rw [he]
  cases o.freeHandle with
  | true => exact ⟨congrArg (· + 1) hf, hu⟩
  | false => exact ⟨hf, hu⟩

end Jpeg
