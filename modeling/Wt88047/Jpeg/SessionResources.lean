import Wt88047.Jpeg.ClientHandles
import Wt88047.Jpeg.ChainCreation

/-! The OMX handles, the buffers on their ports and the queues of the sessions, from the creation of
a session to its end: what a live session holds is held once, and what is left is freed once. -/

namespace Jpeg

open World

def HandleLive (w : World) (h : Nat) : Prop :=
  ∃ s, (w.session s).active = true ∧ (w.session s).omxHandle = some h

def QueuesLive (w : World) (q : Nat) : Prop :=
  ∃ s, (w.session s).active = true ∧ (w.session s).queues = some q

structure Balanced (w : World) : Prop where
  handleHeld : ∀ h < w.nextHandle, HandleLive w h → (w.component h).freeHandle = 0
  handleFreed : ∀ h < w.nextHandle, ¬HandleLive w h → (w.component h).freeHandle = 1
  bufferHeld : ∀ h < w.nextHandle, HandleLive w h → (w.component h).freed = []
  bufferFreed : ∀ h < w.nextHandle, ¬HandleLive w h →
    ∀ b, (w.component h).freed.count b = (w.component h).inUse.count b
  queuesHeld : ∀ q < w.nextQueues, QueuesLive w q →
    (w.queues q).handlesDeinit = 0 ∧ (w.queues q).outBufsDeinit = 0
  queuesFreed : ∀ q < w.nextQueues, ¬QueuesLive w q →
    (w.queues q).handlesDeinit = 1 ∧ (w.queues q).outBufsDeinit = 1

def OmxError.Harmless (e : OmxError) : Prop := e = .none ∨ e = .overflow

instance (e : OmxError) : Decidable e.Harmless := inferInstanceAs (Decidable (_ ∨ _))

/-- `OMX_GetState` and `OMX_SendCommand` succeed and `error_flag`, which is `flag` before, does not
stop the change. -/
def Change.Passes (o : Change) (flag : OmxError) : Prop :=
  o.getState = true ∧ o.sendCommand = true ∧ (o.event.getD flag).Harmless

def Change.FreesAll (o : Change) (params : EncodeParams) (flag : OmxError) : Prop :=
  o.Passes flag ∧ ∀ b ∈ params.headers, o.buffers b = true

/-- The teardown of a session frees what it holds: either nothing was registered, or everything was
and no OMX call and no error flag stands in the way to the loaded state. -/
def Teardown.Complete (o : Teardown) (params : EncodeParams) (flag : OmxError) (c : Component) :
    Prop :=
  o.freeHandle = true ∧
    (c.inUse = [] ∧ (params.headers = [] ∨ c.state = .loaded ∧ o.unread = none) ∨
      c.inUse = params.headers ∧ o.unread = none ∧ o.getState = true ∧
        (c.state = .idle ∧ o.toLoaded.FreesAll params flag ∨
          (c.state = .executing ∨ c.state = .pause) ∧ o.toIdle.Passes flag ∧
            o.toIdle.reached = true ∧ o.toLoaded.FreesAll params (o.toIdle.event.getD flag)))

def Creation.Whole (o : Creation) (count hdl : Nat) (params : EncodeParams) (w : World) : Prop :=
  maxJpegBuf < params.numSrcBufs ∨ maxJpegBuf < params.numDstBufs ∨ o.mallocHandles = false ∨
    o.mallocOutBufs = true ∧ newSessionIdx w (getIndexByHandler hdl) ≠ none ∧
      ∀ i < (if params.burstMode then count else 1), o.getHandle i = true

/-- The sessions end by `mm_jpeg_destroy_session` with a complete teardown, before their client is
closed, and are made whole. -/
def Call.Settles (count : Nat) (w : World) : Call → Prop
  | .close hdl => hdl = 0 ∨ w.opened = false ∨
      LiveClient w hdl ∧ ∀ i < maxSession, (w.session ⟨getIndexByHandler hdl, i⟩).active = false
  | .createSession hdl params o => hdl = 0 ∨ w.opened = false ∨
      LiveClient w hdl ∧ o.Whole count hdl params w
  | .destroySession id o => id = 0 ∨ w.opened = false ∨ validIdx id = false ∨
      id ∈ w.issued ∧ ∀ s ∈ chainOf w (slotOf id), ∀ h ∈ (w.session s).omxHandle,
        (o s).Complete (w.session s).params (w.session s).errorFlag (w.component h)
  | _ => True

def Event.Settles (count : Nat) (w : World) : Event → Prop
  | .call c => c.Settles count w
  | _ => True

instance (o : Change) (flag : OmxError) : Decidable (o.Passes flag) :=
  inferInstanceAs (Decidable (_ ∧ _ ∧ _))

instance (o : Change) (params : EncodeParams) (flag : OmxError) :
    Decidable (o.FreesAll params flag) :=
  inferInstanceAs (Decidable (_ ∧ ∀ b ∈ params.headers, o.buffers b = true))

instance (o : Teardown) (params : EncodeParams) (flag : OmxError) (c : Component) :
    Decidable (o.Complete params flag c) :=
  inferInstanceAs (Decidable (_ ∧ (_ ∧ (_ ∨ _ ∧ _) ∨ _ ∧ _ ∧ _ ∧ (_ ∧ _ ∨ (_ ∨ _) ∧ _ ∧ _ ∧ _))))

instance (o : Creation) (count hdl : Nat) (params : EncodeParams) (w : World) :
    Decidable (o.Whole count hdl params w) :=
  inferInstanceAs (Decidable (_ ∨ _ ∨ _ ∨ _ ∧ newSessionIdx w (getIndexByHandler hdl) ≠ none ∧
    ∀ i < (if params.burstMode then count else 1), o.getHandle i = true))

instance (w : World) (hdl : Nat) : Decidable (LiveClient w hdl) :=
  inferInstanceAs (Decidable (_ ∧ _ ∧ _))

instance Event.decidableSettles (count : Nat) (w : World) : ∀ e : Event, Decidable (e.Settles count w)
  | .call (.close hdl) => inferInstanceAs (Decidable (hdl = 0 ∨ w.opened = false ∨ LiveClient w hdl ∧
      ∀ i < maxSession, (w.session ⟨getIndexByHandler hdl, i⟩).active = false))
  | .call (.createSession hdl params o) => inferInstanceAs (Decidable (hdl = 0 ∨ w.opened = false ∨
      LiveClient w hdl ∧ o.Whole count hdl params w))
  | .call (.destroySession id o) => inferInstanceAs (Decidable (id = 0 ∨ w.opened = false ∨
      validIdx id = false ∨ id ∈ w.issued ∧ ∀ s ∈ chainOf w (slotOf id), ∀ h ∈ (w.session s).omxHandle,
        (o s).Complete (w.session s).params (w.session s).errorFlag (w.component h)))
  | .call (.startJob ..) | .call (.open _) | .call (.abortJob _) => isTrue trivial
  | .wake _ | .submit .. | .fillBufferDone .. | .omxEvent .. => isTrue trivial

theorem releaseBuffers_all {ok : OmxBuffer → Bool} {bs : List OmxBuffer} (h : ∀ b ∈ bs, ok b = true)
    (c : Component) :
    releaseBuffers ok bs c = ({ c with freed := c.freed ++ bs }, true) := by
  induction bs generalizing c with
  | nil => rw [List.append_nil]; rfl
  | cons b bs ih =>
    rw [releaseBuffers, if_pos (h b (List.mem_cons_self ..)),
      ih (fun d hd => h d (List.mem_cons_of_mem _ hd))]
    simp

variable {c : Component}

theorem changeState_passes {new : OmxState} {o : Change} {s : Session} (h : o.Passes s.errorFlag)
    (hne : c.state ≠ new) :
    (changeState new none o s c).2.1 = c.enter new o.reached ∧
      (changeState new none o s c).1.errorFlag = o.event.getD s.errorFlag ∧
      (changeState new none o s c).1.params = s.params := by
  obtain ⟨hget, hsend, hflag⟩ := h
  have hflag' : ¬(o.event.getD s.errorFlag ≠ .none ∧ o.event.getD s.errorFlag ≠ .overflow) := by
    rintro ⟨hn, ho⟩
    exact hflag.elim hn ho
  unfold changeState
  rw [if_neg (by rw [hget]; decide), if_neg hne, if_neg (by rw [hsend]; decide), if_neg hflag']
  exact ⟨rfl, rfl, rfl⟩

theorem changeState_freesAll {o : Change} {s : Session} (h : o.FreesAll s.params s.errorFlag)
    (hstate : c.state = .idle) :
    (changeState .loaded (some sessionFreeBuffers) o s c).2.1 =
      { c.enter .loaded o.reached with freed := c.freed ++ s.params.headers } := by
  obtain ⟨⟨hget, hsend, hflag⟩, hbufs⟩ := h
  have hflag' : ¬(o.event.getD s.errorFlag ≠ .none ∧ o.event.getD s.errorFlag ≠ .overflow) := by
    rintro ⟨hn, ho⟩
    exact hflag.elim hn ho
  have hne : c.state ≠ .loaded := by
    rw [hstate]
    decide
  have hfree : sessionFreeBuffers o.buffers s.params (c.enter .loaded o.reached) =
      ({ c.enter .loaded o.reached with freed := c.freed ++ s.params.headers }, true) := by
    rw [← (enter_freed c .loaded o.reached).1]
    exact releaseBuffers_all hbufs _
  have hdone : (sessionFreeBuffers o.buffers s.params (c.enter .loaded o.reached)).2 = true := by
    rw [hfree]
  unfold changeState
  dsimp only
  rw [if_neg (by rw [hget]; decide), if_neg hne, if_neg (by rw [hsend]; decide), if_neg hflag',
    if_pos hdone, hfree]

theorem sessionTeardown_component {o : Teardown} {p : Session} (hread : o.unread = none) :
    ∃ r : Session × Component × Bool,
      r = (if c.state = .executing ∨ c.state = .pause then changeState .idle none o.toIdle p c
        else (p, c, true)) ∧
      (sessionTeardown o p c).2.freed =
        (if (if o.getState then r.2.1.state else c.state) = .idle then
          changeState .loaded (some sessionFreeBuffers) o.toLoaded r.1 r.2.1 else r).2.1.freed := by
  refine ⟨_, rfl, ?_⟩
  unfold sessionTeardown
  rw [hread]
  cases o.freeHandle <;> rfl

theorem sessionTeardown_noHeaders {o : Teardown} {p : Session} (hp : p.params.headers = []) :
    (sessionTeardown o p c).2.freed = c.freed := by
  obtain ⟨d, hd, he⟩ := sessionTeardown_keeps (o := o) (s := p) (c := c)
    (P := fun d => d.freed = c.freed)
    (fun d new reached hd => (enter_freed d new reached).1.trans hd)
    (fun ok d hd => by
      unfold sessionFreeBuffers
      rw [hp]
      exact hd) rfl
  rw [he]
  cases o.freeHandle <;> exact hd

theorem sessionTeardown_complete {o : Teardown} {p : Session}
    (ho : o.Complete p.params p.errorFlag c) (hc : c.freed = []) :
    (sessionTeardown o p c).2.freed = c.inUse := by
  obtain ⟨-, ⟨hnone, hp | ⟨hstate, hread⟩⟩ | ⟨hall, hread, hget, hway⟩⟩ := ho
  · rw [sessionTeardown_noHeaders hp, hc, hnone]
  · obtain ⟨r, hr, he⟩ := sessionTeardown_component (o := o) (p := p) (c := c) hread
    rw [if_neg (by rw [hstate]; decide)] at hr
    have hst : ¬(if o.getState then r.2.1.state else c.state) = .idle := by
      rw [hr, hstate, ite_self]
      decide
    rw [he, if_neg hst, hr, hc, hnone]
  · obtain ⟨r, hr, he⟩ := sessionTeardown_component (o := o) (p := p) (c := c) hread
    rw [hget, if_pos rfl] at he
    rcases hway with ⟨hidle, hfree⟩ | ⟨hexec, hpass, hreach, hfree⟩
    · rw [if_neg (by rw [hidle]; decide)] at hr
      rw [he, if_pos (by rw [hr]; exact hidle), hr, changeState_freesAll hfree hidle, hc, hall]
      rfl
    · rw [if_pos hexec] at hr
      have hne : c.state ≠ .idle := by rcases hexec with h | h <;> rw [h] <;> decide
      obtain ⟨hcomp, hflag, hparams⟩ := changeState_passes hpass hne
      rw [hreach] at hcomp
      have hidle : r.2.1.state = .idle := by rw [hr, hcomp]; rfl
      have hfreed : r.2.1.freed = [] := by rw [hr, hcomp]; exact hc
      have hfree' : o.toLoaded.FreesAll r.1.params r.1.errorFlag := by
        rw [hr, hflag, hparams]
        exact hfree
      rw [he, if_pos hidle, changeState_freesAll hfree' hidle, hfreed, hr, hparams, hall]
      rfl

/-- Exactly the active sessions hold handles; what no session holds is freed. -/
structure Handles (w : World) : Prop where
  counters : CountersInv w
  owned : ∀ s, (w.session s).active = true → ∃ h, (w.session s).omxHandle = some h
  idle : ∀ s h, (w.session s).omxHandle = some h → (w.session s).active = true
  unfreed : ∀ s h, (w.session s).omxHandle = some h → (w.component h).freed = []
  released : ∀ h < w.nextHandle, (∀ s, (w.session s).omxHandle ≠ some h) →
    (w.component h).freeHandle = 1 ∧
      ∀ b, (w.component h).freed.count b = (w.component h).inUse.count b

structure Resources (w : World) : Prop where
  chains : ChainShape w
  handles : Handles w
  queuesHeld : ∀ q, QueuesLive w q →
    (w.queues q).handlesDeinit = 0 ∧ (w.queues q).outBufsDeinit = 0
  queuesFreed : ∀ q < w.nextQueues, ¬QueuesLive w q →
    (w.queues q).handlesDeinit = 1 ∧ (w.queues q).outBufsDeinit = 1

variable {w : World}

theorem Handles.live_iff (hw : Handles w) {h : Nat} :
    HandleLive w h ↔ ∃ s, (w.session s).omxHandle = some h :=
  ⟨fun ⟨s, _, hs⟩ => ⟨s, hs⟩, fun ⟨s, hs⟩ => ⟨s, hw.idle s h hs, hs⟩⟩

theorem Resources.balanced (hw : Resources w) : Balanced w := by
  have hgone : ∀ h, ¬HandleLive w h → ∀ s, (w.session s).omxHandle ≠ some h := fun h hn s hs =>
    hn (hw.handles.live_iff.mpr ⟨s, hs⟩)
  refine ⟨fun h _ hl => ?_, fun h hlt hn => (hw.handles.released h hlt (hgone h hn)).1,
    fun h _ hl => ?_, fun h hlt hn => (hw.handles.released h hlt (hgone h hn)).2,
    fun q _ hq => hw.queuesHeld q hq, hw.queuesFreed⟩
  · obtain ⟨s, -, hs⟩ := hl
    exact (hw.handles.counters.owned s h hs).2
  · obtain ⟨s, -, hs⟩ := hl
    exact hw.handles.unfreed s h hs

theorem resources_init : Resources {} where
  chains := ⟨fun _ h => (by cases h), fun _ h => (by cases h), fun _ h => (by cases h),
    fun _ h => (by cases h), fun _ h => (by cases h), fun _ h => (by cases h)⟩
  handles := ⟨countersInv_init, fun _ h => (by cases h), fun _ _ h => (by cases h),
    fun _ _ h => (by cases h), fun _ h => (by cases h)⟩
  queuesHeld := fun _ ⟨_, h, _⟩ => (by cases h)
  queuesFreed := fun _ h => (by cases h)

variable {w' : World}

theorem JobFrame.handles (h : JobFrame w w') (hw : Handles w) : Handles w' where
  counters := h.counters.inv hw.counters
  owned s hs := by
    rw [(h.session s).omxHandle]
    exact hw.owned s ((h.session s).active ▸ hs)
  idle s k hk := by
    rw [(h.session s).active]
    exact hw.idle s k ((h.session s).omxHandle ▸ hk)
  unfreed s k hk := by
    rw [(h.released k).1]
    exact hw.unfreed s k ((h.session s).omxHandle ▸ hk)
  released k hlt hk := by
    have hk' : ∀ s, (w.session s).omxHandle ≠ some k := fun s hs =>
      hk s ((h.session s).omxHandle.trans hs)
    rw [h.unheld k hk']
    exact hw.released k (h.nextHandle ▸ hlt) hk'

theorem JobFrame.queuesLive (h : JobFrame w w') (q : Nat) : QueuesLive w' q ↔ QueuesLive w q := by
  refine exists_congr fun s => ?_
  rw [(h.session s).active, (h.session s).queues]

theorem JobFrame.resources (h : JobFrame w w') (hw : Resources w) : Resources w' where
  chains := h.chains hw.chains
  handles := h.handles hw.handles
  queuesHeld q hq := by
    rw [(h.deinits q).1, (h.deinits q).2]
    exact hw.queuesHeld q ((h.queuesLive q).mp hq)
  queuesFreed q hlt hq := by
    rw [(h.deinits q).1, (h.deinits q).2]
    exact hw.queuesFreed q (h.nextQueues ▸ hlt) fun hl => hq ((h.queuesLive q).mpr hl)

theorem Resources.of_active (hw : Resources w) (hc : CountersInv w') (hi : w'.issued = w.issued)
    (hn : w'.nextQueues = w.nextQueues) (hh : w'.nextHandle = w.nextHandle)
    (hk : w'.component = w.component) (hq : w'.queues = w.queues)
    (hs : ∀ s, (w.session s).active = true → w'.session s = w.session s)
    (hs' : ∀ s, (w.session s).active = false → (w'.session s).active = false ∧ (w'.session s).omxHandle = none)
    (hu : ∀ s, (w.session s).active = true → (w'.client s.client).isUsed = true) :
    Resources w' := by
  have hback : ∀ s, (w'.session s).active = true → (w.session s).active = true := by
    intro s h
    cases ha : (w.session s).active with
    | true => rfl
    | false =>
      rw [(hs' s ha).1] at h
      cases h
  have hhandle : ∀ s, (w'.session s).omxHandle = (w.session s).omxHandle := by
    intro s
    cases ha : (w.session s).active with
    | true => rw [hs s ha]
    | false =>
      rw [(hs' s ha).2]
      rcases Option.eq_none_or_eq_some (w.session s).omxHandle with he | ⟨h, he⟩
      · exact he.symm
      · rw [hw.handles.idle s h he] at ha
        cases ha
  have hlive : ∀ q, QueuesLive w' q ↔ QueuesLive w q := by
    refine fun q => exists_congr fun s => ⟨fun ⟨ha, he⟩ => ?_, fun ⟨ha, he⟩ => ?_⟩
    · have ha' := hback s ha
      rw [hs s ha'] at he
      exact ⟨ha', he⟩
    · rw [hs s ha]
      exact ⟨ha, he⟩
  refine ⟨hw.chains.of_active hi hn hs hback hu, ⟨hc, fun s h => ?_, fun s h he => ?_, fun s h he => ?_,
    fun h hlt hno => ?_⟩, fun q hl => ?_, fun q hlt hl => ?_⟩
  · rw [hhandle]
    exact hw.handles.owned s (hback s h)
  · rw [hhandle] at he
    have ha := hw.handles.idle s h he
    rw [hs s ha]
    exact ha
  · rw [hhandle] at he
    rw [hk]
    exact hw.handles.unfreed s h he
  · rw [hk]
    exact hw.handles.released h (hh ▸ hlt) fun s hs => hno s ((hhandle s).trans hs)
  · rw [hq]
    exact hw.queuesHeld q ((hlive q).mp hl)
  · rw [hq]
    exact hw.queuesFreed q (hn ▸ hlt) fun h => hl ((hlive q).mpr h)

theorem clearSessions_inactive {c : Nat} (hc : ∀ s, s.client = c → (w.session s).active = false) :
    (∀ s, (w.session s).active = true → (clearSessions w c).session s = w.session s) ∧
      ∀ s, (w.session s).active = false → (∀ h, (w.session s).omxHandle ≠ some h) →
        ((clearSessions w c).session s).active = false ∧
          ((clearSessions w c).session s).omxHandle = none := by
  refine ⟨fun s hs => ?_, fun s hs hn => ?_⟩
  · rw [session_clearSessions, if_neg]
    intro he
    rw [hc s he] at hs
    cases hs
  · rw [session_clearSessions]
    split_ifs
    · exact ⟨rfl, rfl⟩
    · exact ⟨hs, Option.eq_none_iff_forall_ne_some.mpr hn⟩

variable {s : Slot}

theorem Resources.no_handle (hw : Resources w) (hs : (w.session s).active = false) :
    ∀ h, (w.session s).omxHandle ≠ some h := by
  intro h he
  rw [hw.handles.idle s h he] at hs
  cases hs

theorem newClient_resources (hw : Resources w) : Resources (newClient w).1 := by
  have hcounters := newClient_counters hw.handles.counters
  rcases newClient_cases w with ⟨he, -, -⟩ | ⟨i, hi, hu, -, he⟩
  · rw [he]
    exact hw
  rw [he] at hcounters ⊢
  have hno : ∀ s : Slot, s.client = i → (w.session s).active = false := by
    intro s hs
    cases ha : (w.session s).active with
    | false => rfl
    | true =>
      have hused := hw.chains.used s ha
      rw [hs, hu] at hused
      cases hused
  obtain ⟨hkeep, hgone⟩ := clearSessions_inactive hno
  refine hw.of_active hcounters rfl rfl rfl rfl rfl hkeep
    (fun s hs => hgone s hs (hw.no_handle hs)) fun s hs => ?_
  change (if s.client = i then _ else w.client s.client : Client).isUsed = true
  split_ifs
  · rfl
  · exact hw.chains.used s hs

theorem jpegOpen_resources (hw : Resources w) (init : Bool) : Resources (jpegOpen init w).1 := by
  rcases jpegOpen_cases hw.handles.counters.clients init with he | he
  · rw [he]
    exact hw
  · rw [he]
    refine newClient_resources (hw.of_active ?_ rfl rfl rfl rfl rfl (fun s _ => rfl) ?_ hw.chains.used)
    · exact ⟨hw.handles.counters.clients, hw.handles.counters.sessions, hw.handles.counters.owned,
        hw.handles.counters.distinct⟩
    · exact fun s hs => ⟨hs, Option.eq_none_iff_forall_ne_some.mpr (hw.no_handle hs)⟩

theorem deinit_resources (hw : Resources w) (hno : ∀ s, (w.session s).active = false) :
    Resources (deinit w) := by
  have hfree : ∀ h < w.nextHandle, (w.component h).freeHandle = 1 ∧
      ∀ b, (w.component h).freed.count b = (w.component h).inUse.count b :=
    fun h hlt => hw.handles.released h hlt fun s => hw.no_handle (hno s) h
  have hopen : openHandles w = 0 := by
    refine List.countP_eq_zero.mpr fun h hh => ?_
    rw [(hfree h (List.mem_range.mp hh)).1]
    decide
  refine ⟨⟨fun _ h => (by cases h), fun _ h => (by cases h), fun _ h => (by cases h),
    fun _ h => (by cases h), fun _ h => (by cases h), fun _ h => (by cases h)⟩,
    ⟨deinit_counters hopen, fun _ h => (by cases h), fun _ _ h => (by cases h),
      fun _ _ h => (by cases h), fun h hlt _ => hfree h hlt⟩,
    fun q hq => ?_, fun q hlt _ => ?_⟩
  · obtain ⟨s, hs, -⟩ := hq
    cases hs
  · refine hw.queuesFreed q hlt ?_
    rintro ⟨s, hs, -⟩
    rw [hno s] at hs
    cases hs

theorem Resources.noClients (hw : Resources w) (h : w.numClients = 0) (s : Slot) :
    (w.session s).active = false := by
  have hnone : usedClients w = 0 := by
    have hcount := hw.handles.counters.clients
    rw [h] at hcount
    exact_mod_cast hcount.symm
  cases ha : (w.session s).active with
  | false => rfl
  | true =>
    have hmem := List.mem_range.mpr (hw.chains.range s ha).1
    exact absurd (hw.chains.used s ha) (List.countP_eq_zero.mp hnone _ hmem)

theorem intfClose_resources {count : Nat} {hdl : Nat} (hw : Resources w)
    (hc : (Call.close hdl).Settles count w) : Resources (intfClose hdl w).1 := by
  unfold intfClose
  dsimp only
  by_cases hz : hdl = 0
  · rw [if_pos hz]
    exact hw
  rw [if_neg hz]
  by_cases ho : (!w.opened) = true
  · rw [if_pos ho]
    exact hw
  rw [if_neg ho]
  rcases hc with hc | hc | ⟨hlive, hidle⟩
  · exact absurd hc hz
  · exact absurd (by rw [hc]; rfl) ho
  obtain ⟨hrc, hinv, -, -⟩ := close_live hlive hw.handles.counters
  have hno : ∀ s : Slot, s.client = getIndexByHandler hdl → (w.session s).active = false := by
    intro s hs
    cases ha : (w.session s).active with
    | false => rfl
    | true =>
      have hi := hidle s.idx (hw.chains.range s ha).2
      rw [← hs, ha] at hi
      exact hi
  have hclosed : (close hdl w).1 =
      (clearSessions w (getIndexByHandler hdl)).setClient (getIndexByHandler hdl) {} := by
    have hfold := closeSessions_idle (c := getIndexByHandler hdl) (l := List.range maxSession) (w := w)
      fun i _ => hno ⟨_, i⟩ rfl
    unfold close
    rw [if_neg (by have := hlive.1; omega), hfold]
  obtain ⟨hkeep, hgone⟩ := clearSessions_inactive hno
  have hres : Resources { (close hdl w).1 with numClients := (close hdl w).1.numClients - 1 } := by
    rw [hclosed] at hinv ⊢
    refine hw.of_active hinv rfl rfl rfl rfl rfl hkeep (fun s hs => hgone s hs (hw.no_handle hs))
      fun s hs => ?_
    have hne : s.client ≠ getIndexByHandler hdl := fun he => by
      rw [hno s he] at hs
      cases hs
    change (if s.client = getIndexByHandler hdl then _ else w.client s.client : Client).isUsed = true
    rw [if_neg hne]
    exact hw.chains.used s hs
  rw [hrc]
  by_cases hd : (0 : Int) = 0 ∧ (close hdl w).1.numClients - 1 = 0
  · rw [if_pos hd]
    exact deinit_resources hres (hres.noClients hd.2)
  · rw [if_neg hd]
    exact hres

structure LoopResources (w : World) (q : Nat) (chain : List Slot) (id : Nat) : Prop where
  loop : ChainLoop w q chain id
  handles : Handles w
  queuesHeld : ∀ r, QueuesLive w r ∨ r = q →
    (w.queues r).handlesDeinit = 0 ∧ (w.queues r).outBufsDeinit = 0
  queuesFreed : ∀ r < q, ¬QueuesLive w r →
    (w.queues r).handlesDeinit = 1 ∧ (w.queues r).outBufsDeinit = 1

variable {chain : List Slot}

theorem Joined.handles {q : Nat} (hj : Joined w w' q chain s) (hw : Handles w)
    (hs : (w.session s).active = false) (hc : CountersInv w') : Handles w' := by
  have hnone : ∀ h, (w.session s).omxHandle ≠ some h := fun h he => by
    rw [hw.idle s h he] at hs
    cases hs
  have hcases : ∀ t h, (w'.session t).omxHandle = some h →
      t = s ∧ h = w.nextHandle ∨ t ≠ s ∧ (w.session t).omxHandle = some h ∧ h ≠ w.nextHandle := by
    intro t h he
    by_cases hts : t = s
    · subst hts
      rw [hj.self.2.2.2.2] at he
      exact .inl ⟨rfl, (Option.some.inj he).symm⟩
    · rw [(hj.keep hts).2.2.2] at he
      have hlt := (hw.counters.owned t h he).1
      exact .inr ⟨hts, he, by omega⟩
  refine ⟨hc, fun t ht => ?_, fun t h he => ?_, fun t h he => ?_, fun h hlt hno => ?_⟩
  · by_cases hts : t = s
    · subst hts
      exact ⟨_, hj.self.2.2.2.2⟩
    · rw [(hj.keep hts).1] at ht
      rw [(hj.keep hts).2.2.2]
      exact hw.owned t ht
  · rcases hcases t h he with ⟨rfl, -⟩ | ⟨hts, he', -⟩
    · exact hj.self.1
    · rw [(hj.keep hts).1]
      exact hw.idle t h he'
  · rcases hcases t h he with ⟨-, rfl⟩ | ⟨-, he', hne⟩
    · exact hj.fresh.1
    · rw [hj.component h hne]
      exact hw.unfreed t h he'
  · have hne : h ≠ w.nextHandle := fun he => hno s (he ▸ hj.self.2.2.2.2)
    rw [hj.nextHandle] at hlt
    rw [hj.component h hne]
    refine hw.released h (by omega) fun t ht => ?_
    by_cases hts : t = s
    · exact hnone h (hts ▸ ht)
    · exact hno t ((hj.keep hts).2.2.2.trans ht)

theorem Joined.queuesLive {q : Nat} (hj : Joined w w' q chain s) (hs : (w.session s).active = false)
    (r : Nat) : QueuesLive w' r ↔ QueuesLive w r ∨ r = q := by
  constructor
  · rintro ⟨t, ht, hr⟩
    by_cases hts : t = s
    · subst hts
      rw [hj.self.2.2.2.1] at hr
      exact .inr (Option.some.inj hr).symm
    · rw [(hj.keep hts).1] at ht
      rw [(hj.keep hts).2.1] at hr
      exact .inl ⟨t, ht, hr⟩
  · rintro (⟨t, ht, hr⟩ | rfl)
    · have hts : t ≠ s := fun he => by
        rw [he, hs] at ht
        cases ht
      exact ⟨t, (hj.keep hts).1.trans ht, (hj.keep hts).2.1.trans hr⟩
    · exact ⟨s, hj.self.1, hj.self.2.2.2.1⟩

theorem LoopResources.join (count i hdl : Nat) {q id : Nat} (params : EncodeParams) (enq : Bool)
    (conf : Configure) (hw : LoopResources w q chain id) (hs : (w.session s).active = false)
    (hc : s.client < maxJpegClientNum) (hu : (w.client s.client).isUsed = true)
    (hi : s.idx < maxSession) :
    LoopResources (joinChain count i hdl q params enq conf chain s w).1 q (chain ++ [s])
      (if id = 0 then packSession s else id) := by
  have hj := joinChain_joined count i hdl q params enq conf (w := w) hw.loop.nodup
    (hw.loop.not_mem hs)
  refine ⟨hw.loop.join hs hc hu hi hj, hj.handles hw.handles hs (joinChain_counters hw.handles.counters),
    fun r hr => ?_, fun r hlt hr => ?_⟩
  · rw [(hj.deinits r).1, (hj.deinits r).2]
    refine hw.queuesHeld r ?_
    rw [hj.queuesLive hs] at hr
    exact hr.elim (fun h => h) .inr
  · rw [(hj.deinits r).1, (hj.deinits r).2]
    exact hw.queuesFreed r hlt fun hl => hr ((hj.queuesLive hs r).mpr (.inl hl))

theorem createSessions_resources (count : Nat) {hdl q : Nat} (params : EncodeParams) (o : Creation)
    (hc : getIndexByHandler hdl < maxJpegClientNum) (k i : Nat) (chain : List Slot) (id : Nat)
    (hw : LoopResources w q chain id) (hu : (w.client (getIndexByHandler hdl)).isUsed = true)
    (hg : ∀ j < i + k, o.getHandle j = true)
    (hne : chain ≠ [] ∨ k ≠ 0 ∧ newSessionIdx w (getIndexByHandler hdl) ≠ none) :
    ∃ chain', chain' ≠ [] ∧
      LoopResources (createSessions count hdl q params o k i chain id w).1 q chain'
        (createSessions count hdl q params o k i chain id w).2.2 := by
  induction k generalizing i chain id w with
  | zero => exact ⟨chain, hne.resolve_right fun h => h.1 rfl, hw⟩
  | succ k ih =>
    rw [createSessions]
    rcases Option.eq_none_or_eq_some (newSessionIdx w (getIndexByHandler hdl)) with hn | ⟨s, hn⟩
    · rw [hn]
      exact ⟨chain, hne.resolve_right fun h => h.2 hn, hw⟩
    rw [hn]
    obtain ⟨hsc, hsi, hs⟩ := newSessionIdx_spec hn
    dsimp only
    rw [if_neg (by rw [hg i (by omega)]; decide)]
    have hjoin := hw.join count i hdl params (o.enqHandle i) (o.configure i) hs
      (by rw [hsc]; exact hc) (by rw [hsc]; exact hu) hsi
    have hclient : (joinChain count i hdl q params (o.enqHandle i) (o.configure i) chain s w).1.client =
        w.client := (joinChain_joined _ _ _ _ _ _ _ hw.loop.nodup (hw.loop.not_mem hs)).client
    by_cases hconf : (joinChain count i hdl q params (o.enqHandle i) (o.configure i) chain s w).2 = true
    · simp only [if_pos hconf]
      exact ih (i + 1) (chain ++ [s]) _ hjoin (by rw [hclient]; exact hu)
        (fun j hj => hg j (by omega)) (.inl (by simp))
    · simp only [if_neg hconf]
      exact ⟨chain ++ [s], by simp, hjoin⟩

theorem Resources.startLoop (hw : Resources w) :
    LoopResources { w.setQueues w.nextQueues {} with nextQueues := w.nextQueues + 1 }
      w.nextQueues [] 0 := by
  have hlive : ∀ r, QueuesLive w r → r ≠ w.nextQueues := by
    rintro r ⟨s, hs, hr⟩ rfl
    obtain ⟨q, hlt, hq⟩ := hw.chains.queues_lt hs
    rw [hr] at hq
    exact absurd (Option.some.inj hq) (by omega)
  refine ⟨⟨hw.chains.range, hw.chains.used, hw.chains.packed, fun j hj => ?_, hw.chains.own,
    fun s hs => .inr (hw.chains.member s hs), List.nodup_nil, fun t => ?_, fun s rest he => ?_,
    fun _ => rfl, rfl⟩, ?_, fun r hr => ?_, fun r hlt hr => ?_⟩
  · obtain ⟨q, hlt, hq⟩ := hw.chains.head j hj
    exact ⟨q, hlt, hq.packed, hq.nodup, hq.mem_iff⟩
  · refine iff_of_false (by simp) ?_
    rintro ⟨ht, hq⟩
    exact hlive _ ⟨t, ht, hq⟩ rfl
  · cases he
  · have hc := hw.handles.counters
    exact ⟨⟨hc.clients, hc.sessions, hc.owned, hc.distinct⟩, hw.handles.owned, hw.handles.idle,
      hw.handles.unfreed, hw.handles.released⟩
  · change ((if r = w.nextQueues then {} else w.queues r : SessionQueues).handlesDeinit) = 0 ∧
      (if r = w.nextQueues then {} else w.queues r : SessionQueues).outBufsDeinit = 0
    by_cases hr' : r = w.nextQueues
    · rw [if_pos hr']
      exact ⟨rfl, rfl⟩
    · rw [if_neg hr']
      exact hw.queuesHeld r (hr.resolve_right hr')
  · change ((if r = w.nextQueues then {} else w.queues r : SessionQueues).handlesDeinit) = 1 ∧
      (if r = w.nextQueues then {} else w.queues r : SessionQueues).outBufsDeinit = 1
    rw [if_neg (by omega)]
    exact hw.queuesFreed r hlt hr

theorem LoopResources.finish {q id : Nat} (hw : LoopResources w q chain id) (hne : chain ≠ []) :
    id ≠ 0 ∧ Resources { w with issued := id :: w.issued } := by
  obtain ⟨s, rest, hs⟩ := List.exists_cons_of_ne_nil hne
  have hmem : s ∈ chain := by
    rw [hs]
    exact List.mem_cons_self ..
  obtain ⟨hact, hqueue⟩ := (hw.loop.mem_iff s).mp hmem
  refine ⟨?_, hw.loop.finish hne, ?_, fun r hr => hw.queuesHeld r (.inl hr), fun r hlt hr => ?_⟩
  · obtain ⟨hc, hi⟩ := hw.loop.range s hact
    rw [(hw.loop.first s rest hs).2]
    exact (slotOf_packSession hc hi).2
  · have hc := hw.handles.counters
    exact ⟨⟨hc.clients, hc.sessions, hc.owned, hc.distinct⟩, hw.handles.owned, hw.handles.idle,
      hw.handles.unfreed, hw.handles.released⟩
  · have hlt' : r < w.nextQueues := hlt
    rw [hw.loop.nextQueues] at hlt'
    have hrq : r ≠ q := fun he => hr ⟨s, hact, he ▸ hqueue⟩
    exact hw.queuesFreed r (by omega) hr

theorem createSession_resources {count hdl : Nat} {params : EncodeParams} {o : Creation}
    (hcount : 0 < count) (hw : Resources w) (hl : LiveClient w hdl)
    (ho : o.Whole count hdl params w) : Resources (createSession count hdl params o w).1 := by
  obtain ⟨hc, hu, -⟩ := hl
  unfold createSession
  dsimp only
  by_cases hbuf : maxJpegBuf < params.numSrcBufs ∨ maxJpegBuf < params.numDstBufs
  · rw [if_pos hbuf]
    exact hw
  rw [if_neg hbuf, if_neg (by omega)]
  by_cases hh : (!o.mallocHandles) = true
  · rw [if_pos hh]
    exact hw
  rw [if_neg hh]
  obtain ⟨hout, hslot, hget⟩ := (ho.resolve_left fun h => hbuf (.inl h)).resolve_left
    (fun h => hbuf (.inr h)) |>.resolve_left fun h => hh (by rw [h]; rfl)
  rw [if_neg (by rw [hout]; decide)]
  obtain ⟨chain, hne, hloop⟩ := createSessions_resources count params o hc
    (if params.burstMode then count else 1) 0 [] 0 hw.startLoop hu
    (fun j hj => hget j (by omega)) (.inr ⟨by split_ifs <;> omega, hslot⟩)
  obtain ⟨hid, hres⟩ := hloop.finish hne
  have hfill : ∀ (v : World) (q : Nat) (bufs : List Nat),
      JobFrame v (v.onQueues q fun x => { x with outBufs := x.outBufs ++ bufs }) :=
    fun v q bufs => .onQueues fun x => ⟨rfl, rfl⟩
  rw [if_neg hid]
  split
  · exact hres
  · exact (hfill _ _ _).resources hres

theorem sessionDestroy_components (o : Slot → Teardown) (hn : chain.Nodup)
    (hh : ∀ t ∈ chain, ∃ h, (w.session t).omxHandle = some h)
    (hd : ∀ s t h, (w.session s).omxHandle = some h → (w.session t).omxHandle = some h → s = t) :
    (∀ t ∈ chain, ∀ h, (w.session t).omxHandle = some h →
      (sessionDestroy o chain w).component h =
          (sessionTeardown (o t) (w.session t) (w.component h)).2 ∧
        ((sessionDestroy o chain w).session t).omxHandle = none) ∧
      ∀ h, (∀ t ∈ chain, (w.session t).omxHandle ≠ some h) →
        (sessionDestroy o chain w).component h = w.component h := by
  induction chain generalizing w with
  | nil => exact ⟨fun t ht => (by cases ht), fun _ _ => rfl⟩
  | cons s rest ih =>
    obtain ⟨hs, hn⟩ := List.nodup_cons.mp hn
    obtain ⟨k, hk⟩ := hh s (List.mem_cons_self ..)
    have hsession : ∀ t, t ≠ s → (teardownSession (o s) s k w).session t = w.session t := fun t ht => by
      rw [teardownSession_session, if_neg ht]
    have hgone : ((teardownSession (o s) s k w).session s).omxHandle = none := by
      obtain ⟨p, f, he⟩ := sessionTeardown_session (o s) (w.session s) (w.component k)
      rw [teardownSession_session, if_pos rfl, he]
    have hcomponent : ∀ h, (teardownSession (o s) s k w).component h =
        if h = k then (sessionTeardown (o s) (w.session s) (w.component k)).2 else w.component h :=
      fun h => rfl
    have hkept : ∀ t h, ((teardownSession (o s) s k w).session t).omxHandle = some h →
        t ≠ s ∧ (w.session t).omxHandle = some h := by
      intro t h he
      have hts : t ≠ s := fun hts => by
        rw [hts, hgone] at he
        cases he
      rw [hsession t hts] at he
      exact ⟨hts, he⟩
    have hrest : ∀ t ∈ rest, t ≠ s := fun t ht he => hs (he ▸ ht)
    obtain ⟨hmine, hother⟩ := ih (w := teardownSession (o s) s k w) hn
      (fun t ht => by
        rw [hsession t (hrest t ht)]
        exact hh t (List.mem_cons_of_mem _ ht))
      (fun t u h ht hu => hd t u h (hkept t h ht).2 (hkept u h hu).2)
    rw [sessionDestroy, hk]
    refine ⟨fun t ht h he => ?_, fun h hno => ?_⟩
    · rcases List.mem_cons.mp ht with rfl | ht
      · obtain rfl : k = h := Option.some.inj (hk.symm.trans he)
        rw [hother k fun u hu hku => (hkept u k hku).1 (hd u t k (hkept u k hku).2 hk), hcomponent,
          if_pos rfl, sessionDestroy_other hs]
        exact ⟨rfl, hgone⟩
      · have hts := hrest t ht
        have hhk : h ≠ k := fun hhk => hts (hd t s k (hhk ▸ he) hk)
        obtain ⟨hc, hnone⟩ := hmine t ht h (by rw [hsession t hts]; exact he)
        rw [hsession t hts, hcomponent, if_neg hhk] at hc
        exact ⟨hc, hnone⟩
    · have hhk : h ≠ k := fun hhk => hno s (List.mem_cons_self ..) (hhk ▸ hk)
      rw [hother h fun t ht he => hno t (List.mem_cons_of_mem _ ht) (hkept t h he).2, hcomponent,
        if_neg hhk]

theorem removeChain_rest (chain : List Slot) (w : World) :
    (chain.foldl (fun w t => removeSessionIdx w (w.session t).sessionId) w).component = w.component ∧
      (chain.foldl (fun w t => removeSessionIdx w (w.session t).sessionId) w).queues = w.queues := by
  induction chain generalizing w with
  | nil => exact ⟨rfl, rfl⟩
  | cons t rest ih => exact ih (removeSessionIdx w (w.session t).sessionId)

theorem destroyChain_account {o : Slot → Teardown} (hw : Resources w) (hn : (chainOf w s).Nodup)
    (hact : ∀ t ∈ chainOf w s, (w.session t).active = true)
    (ho : ∀ t ∈ chainOf w s, ∀ h ∈ (w.session t).omxHandle, (o t).Complete (w.session t).params (w.session t).errorFlag (w.component h))
    :
    (∀ t ∈ chainOf w s, ((destroyChain o s w).session t).omxHandle = none ∧
        ∀ k, (w.session t).omxHandle = some k → ((destroyChain o s w).component k).freeHandle = 1 ∧
          ((destroyChain o s w).component k).freed = ((destroyChain o s w).component k).inUse) ∧
      ∀ k, (∀ t ∈ chainOf w s, (w.session t).omxHandle ≠ some k) →
        (destroyChain o s w).component k = w.component k := by
  have hframe := (removeJobs_frame w (w.session s).sessionId).trans (sessionAbort_frame (chainOf w s) _)
  have habort := fun t => sessionAbort_rest (chainOf w s) (removeJobs w (w.session s).sessionId) t
  obtain ⟨hmine, hothers⟩ := sessionDestroy_components o
    (w := sessionAbort (chainOf w s) (removeJobs w (w.session s).sessionId)) hn
    (fun t ht => by
      rw [(hframe.session t).omxHandle]
      exact hw.handles.owned t (hact t ht))
    (fun t u k ht hu => by
      rw [(hframe.session t).omxHandle] at ht
      rw [(hframe.session u).omxHandle] at hu
      exact hw.handles.counters.distinct t u k ht hu)
  have hcomponent : ∀ k, (destroyChain o s w).component k =
      (sessionDestroy o (chainOf w s)
        (sessionAbort (chainOf w s) (removeJobs w (w.session s).sessionId))).component k :=
    fun k => congrFun (removeChain_rest ..).1 k
  refine ⟨fun t ht => ⟨?_, fun k hk => ?_⟩, fun k hk => ?_⟩
  · obtain ⟨k, hk⟩ := hw.handles.owned t (hact t ht)
    have hnone := (hmine t ht k ((hframe.session t).omxHandle.trans hk)).2
    exact ((removeChain_counters _ _).handle t).trans hnone
  · have hcomp := (hmine t ht k ((hframe.session t).omxHandle.trans hk)).1
    have hcomplete := ho t ht k hk
    have hrest := sessionTeardown_rest (o t)
      ((sessionAbort (chainOf w s) (removeJobs w (w.session s).sessionId)).session t) (w.component k)
    have hcomplete' : (o t).Complete
        ((sessionAbort (chainOf w s) (removeJobs w (w.session s).sessionId)).session t).params
        ((sessionAbort (chainOf w s) (removeJobs w (w.session s).sessionId)).session t).errorFlag
        (w.component k) := by
      rw [(hframe.session t).params, (habort t).2.2]
      exact hcomplete
    rw [(habort t).1] at hcomp
    rw [hcomponent, hcomp]
    refine ⟨hrest.1.trans ?_,
      (sessionTeardown_complete hcomplete' (hw.handles.unfreed t k hk)).trans hrest.2.symm⟩
    rw [(hw.handles.counters.owned t k hk).2, hcomplete.1]
    rfl
  · have hsame := hothers k fun t ht => by
      rw [(hframe.session t).omxHandle]
      exact hk t ht
    rw [hcomponent, hsame]
    exact congrFun (habort s).1 k

theorem destroyChain_queues (o : Slot → Teardown) (s : Slot) (w : World) :
    (destroyChain o s w).queues = w.queues ∧ (destroyChain o s w).nextHandle = w.nextHandle := by
  have hframe := (removeJobs_frame w (w.session s).sessionId).trans (sessionAbort_frame (chainOf w s) _)
  have habort := sessionAbort_rest (chainOf w s) (removeJobs w (w.session s).sessionId) s
  obtain ⟨-, -, -, hqueues, hnext, -⟩ := sessionDestroy_rest o (chainOf w s)
    (sessionAbort (chainOf w s) (removeJobs w (w.session s).sessionId))
  exact ⟨(removeChain_rest ..).2.trans (hqueues.trans habort.2.1),
    (removeChain_counters _ _).nextHandle.trans (hnext.trans hframe.nextHandle)⟩

theorem destroyQueues_deinit (s : Slot) (q id r : Nat) (w : World) :
    ((destroyQueues s q id w).queues r).handlesDeinit =
        (w.queues r).handlesDeinit + (if r = q then 1 else 0) ∧
      ((destroyQueues s q id w).queues r).outBufsDeinit =
        (w.queues r).outBufsDeinit + (if r = q then 1 else 0) := by
  change (if r = q then _ else w.queues r : SessionQueues).handlesDeinit = _ ∧
    (if r = q then _ else w.queues r : SessionQueues).outBufsDeinit = _
  by_cases hr : r = q
  · rw [if_pos hr, if_pos hr, hr]
    exact ⟨rfl, rfl⟩
  · rw [if_neg hr, if_neg hr]
    exact ⟨rfl, rfl⟩

theorem destroySession_account {o : Slot → Teardown} {id : Nat} (hw : Resources w)
    (hid : id ∈ w.issued)
    (ho : ∀ s ∈ chainOf w (slotOf id), ∀ h ∈ (w.session s).omxHandle, (o s).Complete (w.session s).params (w.session s).errorFlag (w.component h))
    (h : destroySession o (slotOf id) w = some w') :
    w'.nextHandle = w.nextHandle ∧
      (∀ t ∈ chainOf w (slotOf id), (w'.session t).omxHandle = none ∧
        ∀ k, (w.session t).omxHandle = some k → (w'.component k).freeHandle = 1 ∧
          (w'.component k).freed = (w'.component k).inUse) ∧
      (∀ k, (∀ t ∈ chainOf w (slotOf id), (w.session t).omxHandle ≠ some k) →
        w'.component k = w.component k) ∧
      ∃ q, (w.session (slotOf id)).queues = some q ∧ ∀ r,
        (w'.queues r).handlesDeinit = (w.queues r).handlesDeinit + (if r = q then 1 else 0) ∧
          (w'.queues r).outBufsDeinit = (w.queues r).outBufsDeinit + (if r = q then 1 else 0) := by
  obtain ⟨q, -, hq⟩ := hw.chains.head id hid
  have hact : ∀ t ∈ chainOf w (slotOf id), (w.session t).active = true := fun t ht =>
    ((hq.mem_iff t).mp ht).1
  have hhead : slotOf id ∈ chainOf w (slotOf id) := List.mem_cons_self ..
  have hqueues := ((hq.mem_iff _).mp hhead).2
  obtain ⟨hmine, hothers⟩ := destroyChain_account hw hq.nodup hact ho
  obtain ⟨hrest, hnext⟩ := destroyChain_queues o (slotOf id) w
  have hchain := destroyChain_session (o := o) (s := slotOf id) hw.chains hact
  have hqid : ((destroyChain o (slotOf id) w).session (slotOf id)).queues = some q :=
    (hchain.2 _ hhead).2.trans hqueues
  unfold destroySession at h
  rw [hqid] at h
  obtain rfl := Option.some.inj h
  generalize destroyChain o (slotOf id) w = v at hmine hothers hrest hnext
  refine ⟨hnext, fun t ht => ⟨?_, (hmine t ht).2⟩, hothers, q, hqueues, fun r => ?_⟩
  · exact ((destroyQueues_counters _ _ _ _).handle t).trans (hmine t ht).1
  · rw [← hrest]
    exact destroyQueues_deinit ..

theorem destroySession_resources {o : Slot → Teardown} {id : Nat} (hw : Resources w)
    (hid : id ∈ w.issued)
    (ho : ∀ s ∈ chainOf w (slotOf id), ∀ h ∈ (w.session s).omxHandle, (o s).Complete (w.session s).params (w.session s).errorFlag (w.component h))
    (h : destroySession o (slotOf id) w = some w') : Resources w' := by
  obtain ⟨hother, hmine, -, -, hnext⟩ := destroySession_session hw.chains hid h
  obtain ⟨hnh, hgone, hcomp, q, hq, hqueues⟩ := destroySession_account hw hid ho h
  obtain ⟨q', -, hhead⟩ := hw.chains.head id hid
  have hmem : slotOf id ∈ chainOf w (slotOf id) := List.mem_cons_self ..
  obtain rfl : q' = q := Option.some.inj (((hhead.mem_iff _).mp hmem).2.symm.trans hq)
  have hcounters : CountersInv w' := by
    refine destroySession_counters hw.handles.counters (fun t ht => ?_) h
    obtain ⟨k, hk⟩ := hw.handles.owned t ((hhead.mem_iff t).mp ht).1
    exact (ho t ht k hk).1
  have hactive : ∀ s, (w'.session s).active = true →
      s ∉ chainOf w (slotOf id) ∧ (w.session s).active = true := by
    intro s hs
    by_cases hc : s ∈ chainOf w (slotOf id)
    · rw [hmine s hc] at hs
      cases hs
    · exact ⟨hc, hother s hc ▸ hs⟩
  have hheld : ∀ s k, (w'.session s).omxHandle = some k →
      s ∉ chainOf w (slotOf id) ∧ (w.session s).omxHandle = some k := by
    intro s k hk
    by_cases hc : s ∈ chainOf w (slotOf id)
    · rw [(hgone s hc).1] at hk
      cases hk
    · exact ⟨hc, hother s hc ▸ hk⟩
  have hlive : ∀ r, QueuesLive w' r ↔ QueuesLive w r ∧ r ≠ q' := by
    refine fun r => ⟨fun ⟨s, hs, hr⟩ => ?_, fun ⟨⟨s, hs, hr⟩, hne⟩ => ?_⟩
    · obtain ⟨hc, hs'⟩ := hactive s hs
      rw [hother s hc] at hr
      exact ⟨⟨s, hs', hr⟩, fun he => hc ((hhead.mem_iff s).mpr ⟨hs', he ▸ hr⟩)⟩
    · have hc : s ∉ chainOf w (slotOf id) := fun hc =>
        hne (Option.some.inj (hr.symm.trans ((hhead.mem_iff s).mp hc).2))
      exact ⟨s, by rw [hother s hc]; exact hs, by rw [hother s hc]; exact hr⟩
  refine ⟨destroySession_chains hw.chains hid h, ⟨hcounters, fun s hs => ?_, fun s k hk => ?_,
    fun s k hk => ?_, fun k hlt hno => ?_⟩, fun r hr => ?_, fun r hlt hr => ?_⟩
  · obtain ⟨hc, hs'⟩ := hactive s hs
    rw [hother s hc]
    exact hw.handles.owned s hs'
  · obtain ⟨hc, hk'⟩ := hheld s k hk
    rw [hother s hc]
    exact hw.handles.idle s k hk'
  · obtain ⟨hc, hk'⟩ := hheld s k hk
    rw [hcomp k fun t ht he => hc (hw.handles.counters.distinct t s k he hk' ▸ ht)]
    exact hw.handles.unfreed s k hk'
  · by_cases hmine' : ∃ t ∈ chainOf w (slotOf id), (w.session t).omxHandle = some k
    · obtain ⟨t, ht, hk⟩ := hmine'
      obtain ⟨hf, hu⟩ := (hgone t ht).2 k hk
      exact ⟨hf, fun b => by rw [hu]⟩
    · have hno' : ∀ t ∈ chainOf w (slotOf id), (w.session t).omxHandle ≠ some k := fun t ht hk =>
        hmine' ⟨t, ht, hk⟩
      rw [hcomp k hno']
      refine hw.handles.released k (hnh ▸ hlt) fun s hs => ?_
      by_cases hc : s ∈ chainOf w (slotOf id)
      · exact hno' s hc hs
      · exact hno s (by rw [hother s hc]; exact hs)
  · obtain ⟨hl, hne⟩ := (hlive r).mp hr
    rw [(hqueues r).1, (hqueues r).2, if_neg hne]
    exact hw.queuesHeld r hl
  · rw [(hqueues r).1, (hqueues r).2]
    by_cases hrq : r = q'
    · obtain ⟨h1, h2⟩ := hw.queuesHeld r ⟨slotOf id, ((hhead.mem_iff _).mp hmem).1, hrq ▸ hq⟩
      rw [if_pos hrq, h1, h2]
      exact ⟨rfl, rfl⟩
    · rw [if_neg hrq]
      exact hw.queuesFreed r (hnext ▸ hlt) fun hl => hr ((hlive r).mpr ⟨hl, hrq⟩)

theorem call_resources {count : Nat} {c : Call} {r : Reply} (hcount : 0 < count) (hw : Resources w)
    (hc : c.Settles count w) (h : call count w c = some (w', r)) : Resources w' := by
  cases call_effect h with
  | refused c => exact hw
  | opened init => exact jpegOpen_resources hw init
  | closed hdl => exact intfClose_resources hw hc
  | created params o hz ho =>
    obtain ⟨hlive, hwhole⟩ := (hc.resolve_left hz).resolve_left ho
    exact createSession_resources hcount hw hlive hwhole
  | destroyed hz ho hv hd =>
    obtain ⟨hid, hcomplete⟩ := ((hc.resolve_left hz).resolve_left ho).resolve_left fun h => by
      rw [h] at hv
      cases hv
    exact destroySession_resources hw hid hcomplete hd
  | started job o ho => exact (startJob_frame count job o w).resources hw
  | aborted hz ho => exact (abortJob_steady _ w).resources hw

theorem step_resources {count : Nat} {e : Event} (hcount : 0 < count) (hw : Resources w)
    (he : e.Settles count w) (h : step count w e = some w') : Resources w' := by
  cases e with
  | call c =>
    obtain ⟨⟨v, r⟩, hv, rfl⟩ := Option.map_eq_some_iff.mp h
    exact call_resources hcount hw he hv
  | wake o => exact (jobmgrWake_frame h).resources hw
  | submit taken o => exact (encodeSubmit_steady h).resources hw
  | fillBufferDone s o => exact (fbd_steady h).resources hw
  | omxEvent s ev o => exact (eventHandler_steady h).resources hw

/-- When the sessions are made whole, destroyed with a complete teardown, and only then their
client is closed, every handle, buffer and queue is accounted for in every state. -/
theorem resources_balanced {count : Nat} {es : List Event} {w : World} (hcount : 0 < count)
    (hsettles : Runs.Along (step count) (fun v e => e.Settles count v) {} es)
    (h : Runs.play (step count) {} es = some w) : Balanced w := by
  have hres : Resources w := Runs.play_invariant (P := fun v e => e.Settles count v)
    (fun v e v' hv he hs => step_resources hcount hv he hs) resources_init hsettles h
  exact hres.balanced

/-- A session of one client, made and destroyed without an error. -/
theorem resources_balanced_run :
    ∃ w, Runs.play (step 1) {} [.call (.open true),
        .call (.createSession 256 { numSrcBufs := 1, numDstBufs := 1, jpegCb := true } {}),
        .call (.destroySession (packSession ⟨0, 0⟩) fun _ => {}), .call (.close 256)] = some w ∧
      Balanced w :=
  ⟨_, rfl, @resources_balanced 1 [.call (.open true),
    .call (.createSession 256 { numSrcBufs := 1, numDstBufs := 1, jpegCb := true } {}),
    .call (.destroySession (packSession ⟨0, 0⟩) fun _ => {}), .call (.close 256)] _ (by decide)
    (by decide) rfl⟩

/-- An error event while the session lives keeps its buffers from being freed. -/
theorem resources_lost_on_error :
    ¬∀ (count : Nat) (es : List Event) (w : World), 0 < count →
      Runs.play (step count) {} es = some w → Balanced w := by
  intro hall
  have hafter := hall 1 [.call (.open true),
    .call (.createSession 256 { numSrcBufs := 1, numDstBufs := 1, jpegCb := true } {}),
    .omxEvent ⟨0, 0⟩ (.error (.other 1)) {},
    .call (.destroySession (packSession ⟨0, 0⟩) fun _ => {})] _ (by decide) rfl
  have hdead : ¬HandleLive _ 0 := fun hl =>
    absurd (hafter.handleHeld 0 (by decide) hl) (by decide)
  exact absurd (hafter.bufferFreed 0 (by decide) hdead (0, 0)) (by decide)

end Jpeg
