import Wt88047.Lib.Runs
import Wt88047.Lib.Tally
import Wt88047.Jpeg.JobFrame

/-! The counters of clients and OMX handles, and what a call does with a client handle or a
session id that nobody holds. -/

namespace Jpeg

open World

def usedClients (w : World) : Nat :=
  (List.range maxJpegClientNum).countP fun i => (w.client i).isUsed

def openHandles (w : World) : Nat :=
  (List.range w.nextHandle).countP fun h => (w.component h).freeHandle == 0

def CountersAgree (w : World) : Prop :=
  w.opened = true → w.numClients = usedClients w ∧ w.numSessions = openHandles w

def LiveClient (w : World) (hdl : Nat) : Prop :=
  getIndexByHandler hdl < maxJpegClientNum ∧
    (w.client (getIndexByHandler hdl)).isUsed = true ∧
    (w.client (getIndexByHandler hdl)).clientHandle = hdl

/-- The call names a client or a session that was never handed out or is closed. -/
def Call.Dead (w : World) : Call → Prop
  | .close hdl | .createSession hdl _ _ => ¬LiveClient w hdl
  | .destroySession id _ => id ∉ w.issued
  | .startJob (some job) _ => job.sessionId ∉ w.issued
  | _ => False

/-- A dead call that does not wait for the job manager returns an error and changes nothing. -/
def DeadRejected (count : Nat) (w : World) : Event → Prop
  | .call c => c.Dead w → ¬(c.locks = true ∧ w.inEncode ≠ none) →
      ∃ r : Reply, call count w c = some (w, r) ∧ r.rc ≠ 0
  | _ => True

/-- The call uses a handle or an id that it was given, or one that the code does look at; the last
client goes with no OMX handle open, and OMX frees the handles it is asked to free. -/
def Call.Held (w : World) : Call → Prop
  | .close hdl => hdl = 0 ∨ w.opened = false ∨
      LiveClient w hdl ∧ (w.numClients = 1 → openHandles w = 0)
  | .createSession hdl _ _ => hdl = 0 ∨ w.opened = false ∨ LiveClient w hdl
  | .destroySession id o => id = 0 ∨ w.opened = false ∨
      id ∈ w.issued ∧ ∀ s ∈ chainOf w (slotOf id), (o s).freeHandle = true
  | .startJob (some job) _ => w.opened = false ∨ validIdx job.sessionId = false ∨
      job.sessionId ∈ w.issued
  | _ => True

def Event.Held (w : World) : Event → Prop
  | .call c => c.Held w
  | _ => True

instance Event.decidableHeld (w : World) : ∀ e : Event, Decidable (e.Held w)
  | .call (.close hdl) => inferInstanceAs (Decidable (hdl = 0 ∨ w.opened = false ∨
      (getIndexByHandler hdl < maxJpegClientNum ∧
        (w.client (getIndexByHandler hdl)).isUsed = true ∧
        (w.client (getIndexByHandler hdl)).clientHandle = hdl) ∧
      (w.numClients = 1 → openHandles w = 0)))
  | .call (.createSession hdl _ _) => inferInstanceAs (Decidable (hdl = 0 ∨ w.opened = false ∨
      (getIndexByHandler hdl < maxJpegClientNum ∧
        (w.client (getIndexByHandler hdl)).isUsed = true ∧
        (w.client (getIndexByHandler hdl)).clientHandle = hdl)))
  | .call (.destroySession id o) => inferInstanceAs (Decidable (id = 0 ∨ w.opened = false ∨
      id ∈ w.issued ∧ ∀ s ∈ chainOf w (slotOf id), (o s).freeHandle = true))
  | .call (.startJob (some job) _) => inferInstanceAs (Decidable (w.opened = false ∨
      validIdx job.sessionId = false ∨ job.sessionId ∈ w.issued))
  | .call (.startJob none _) | .call (.open _) | .call (.abortJob _) => isTrue trivial
  | .wake _ | .submit .. | .fillBufferDone .. | .omxEvent .. => isTrue trivial

structure CounterFrame (w w' : World) : Prop where
  numClients : w'.numClients = w.numClients
  client : w'.client = w.client
  numSessions : w'.numSessions = w.numSessions
  nextHandle : w'.nextHandle = w.nextHandle
  handle : ∀ s, (w'.session s).omxHandle = (w.session s).omxHandle
  freeHandle : ∀ h, (w'.component h).freeHandle = (w.component h).freeHandle

theorem CounterFrame.trans {w w' w'' : World} (h : CounterFrame w w') (h' : CounterFrame w' w'') :
    CounterFrame w w'' where
  numClients := h'.numClients.trans h.numClients
  client := h'.client.trans h.client
  numSessions := h'.numSessions.trans h.numSessions
  nextHandle := h'.nextHandle.trans h.nextHandle
  handle s := (h'.handle s).trans (h.handle s)
  freeHandle k := (h'.freeHandle k).trans (h.freeHandle k)

theorem JobFrame.counters {w w' : World} (h : JobFrame w w') : CounterFrame w w' where
  numClients := h.numClients
  client := h.client
  numSessions := h.numSessions
  nextHandle := h.nextHandle
  handle s := (h.session s).omxHandle
  freeHandle k := (h.released k).2

theorem CounterFrame.setSession {w : World} {s : Slot} {p : Session}
    (h : p.omxHandle = (w.session s).omxHandle) : CounterFrame w (w.setSession s p) := by
  refine ⟨rfl, rfl, rfl, rfl, fun t => ?_, fun _ => rfl⟩
  rw [session_setSession]
  by_cases ht : t = s
  · rw [if_pos ht, ht, h]
  · rw [if_neg ht]

theorem removeSessionIdx_counters (w : World) (id : Nat) : CounterFrame w (removeSessionIdx w id) :=
  .setSession rfl

structure CountersInv (w : World) : Prop where
  clients : w.numClients = usedClients w
  sessions : w.numSessions = openHandles w
  owned : ∀ s h, (w.session s).omxHandle = some h →
    h < w.nextHandle ∧ (w.component h).freeHandle = 0
  distinct : ∀ s t h, (w.session s).omxHandle = some h → (w.session t).omxHandle = some h → s = t

theorem CountersInv.agree {w : World} (h : CountersInv w) : CountersAgree w :=
  fun _ => ⟨h.clients, h.sessions⟩

theorem CounterFrame.openHandles {w w' : World} (h : CounterFrame w w') :
    openHandles w' = openHandles w := by
  unfold Jpeg.openHandles
  rw [h.nextHandle]
  exact Tally.countP_congr_mem fun k _ => by rw [h.freeHandle]

theorem CounterFrame.inv {w w' : World} (h : CounterFrame w w') (hw : CountersInv w) :
    CountersInv w' where
  clients := by
    rw [h.numClients, hw.clients]
    unfold usedClients
    rw [h.client]
  sessions := by rw [h.numSessions, hw.sessions, h.openHandles]
  owned s k hk := by
    rw [h.handle] at hk
    rw [h.nextHandle, h.freeHandle]
    exact hw.owned s k hk
  distinct s t k hs ht := by
    rw [h.handle] at hs ht
    exact hw.distinct s t k hs ht

theorem countersInv_init : CountersInv {} :=
  ⟨rfl, rfl, fun _ _ h => (by cases h), fun _ _ _ h => (by cases h)⟩

theorem CountersInv.drop {w w' : World} (hw : CountersInv w) (hc : w'.numClients = usedClients w')
    (hn : w'.numSessions = w.numSessions) (hh : w'.nextHandle = w.nextHandle)
    (hk : w'.component = w.component)
    (hs : ∀ s, (w'.session s).omxHandle = (w.session s).omxHandle ∨
      (w'.session s).omxHandle = none) : CountersInv w' where
  clients := hc
  sessions := by
    rw [hn, hw.sessions]
    unfold openHandles
    rw [hh, hk]
  owned s k h := by
    rw [hh, hk]
    rcases hs s with he | he
    · exact hw.owned s k (he ▸ h)
    · rw [he] at h
      cases h
  distinct s t k h h' := by
    rcases hs s with he | he
    · rcases hs t with hf | hf
      · exact hw.distinct s t k (he ▸ h) (hf ▸ h')
      · rw [hf] at h'
        cases h'
    · rw [he] at h
      cases h

theorem session_clearSessions (w : World) (c : Nat) (s : Slot) :
    (clearSessions w c).session s = if s.client = c then {} else w.session s := rfl

theorem clearSessions_handle (w : World) (c : Nat) (s : Slot) :
    ((clearSessions w c).session s).omxHandle = (w.session s).omxHandle ∨
      ((clearSessions w c).session s).omxHandle = none := by
  rw [session_clearSessions]
  split_ifs
  · exact .inr rfl
  · exact .inl rfl

theorem usedClients_setClient {w : World} {i : Nat} {c : Client} (hi : i < maxJpegClientNum)
    (hu : (w.client i).isUsed ≠ c.isUsed) :
    c.isUsed = true ∧ usedClients (w.setClient i c) = usedClients w + 1 ∨
      c.isUsed = false ∧ usedClients w = usedClients (w.setClient i c) + 1 := by
  have hmem : i ∈ List.range maxJpegClientNum := List.mem_range.mpr hi
  have hsame : ((w.setClient i c).client i).isUsed = c.isUsed := by simp [World.setClient]
  have hother : ∀ j, j ≠ i → (w.client j).isUsed = ((w.setClient i c).client j).isUsed := by
    intro j hj
    simp [World.setClient, hj]
  cases hc : c.isUsed with
  | true =>
    have hw : (w.client i).isUsed = false := by
      rw [hc] at hu
      simpa using hu
    exact .inl ⟨rfl, Tally.countP_flip List.nodup_range hmem hw (hsame.trans hc) hother⟩
  | false =>
    have hw : (w.client i).isUsed = true := by
      rw [hc] at hu
      simpa using hu
    exact .inr ⟨rfl, Tally.countP_flip List.nodup_range hmem (hsame.trans hc) hw
      fun j hj => (hother j hj).symm⟩

theorem generateHandler_pos (w : World) (i : Nat) : (generateHandler w i).2 ≠ 0 := by
  unfold generateHandler
  dsimp only
  split_ifs <;> omega

theorem newClient_cases (w : World) :
    (newClient w).1 = w ∧ (newClient w).2 = 0 ∧
        (w.numClients ≥ maxJpegClientNum ∨ usedClients w = maxJpegClientNum) ∨
      ∃ i < maxJpegClientNum, (w.client i).isUsed = false ∧ (newClient w).2 ≠ 0 ∧
        (newClient w).1 =
          { clearSessions ((generateHandler w i).1.setClient i
              { isUsed := true, clientHandle := (generateHandler w i).2 }) i with
            numClients := w.numClients + 1 } := by
  unfold newClient
  by_cases hn : w.numClients ≥ maxJpegClientNum
  · rw [if_pos hn]
    exact .inl ⟨rfl, rfl, .inl hn⟩
  rw [if_neg hn]
  rcases Option.eq_none_or_eq_some
    ((List.range maxJpegClientNum).find? fun i => !(w.client i).isUsed) with hf | ⟨i, hf⟩
  · rw [hf]
    refine .inl ⟨rfl, rfl, .inr ?_⟩
    have hall : ∀ i ∈ List.range maxJpegClientNum, (w.client i).isUsed = true := by
      intro i hi
      simpa using List.find?_eq_none.mp hf i hi
    exact (List.countP_eq_length.mpr hall).trans (by simp)
  · rw [hf]
    have hi := List.mem_range.mp (List.mem_of_find?_eq_some hf)
    have hu : (w.client i).isUsed = false := by simpa using List.find?_some hf
    exact .inr ⟨i, hi, hu, generateHandler_pos w i, rfl⟩

theorem newClient_counters {w : World} (hw : CountersInv w) : CountersInv (newClient w).1 := by
  rcases newClient_cases w with ⟨he, -, -⟩ | ⟨i, hi, hu, -, he⟩
  · rw [he]
    exact hw
  rw [he]
  refine hw.drop ?_ rfl rfl rfl (clearSessions_handle _ i)
  have hused := usedClients_setClient (w := w) (i := i)
    (c := { isUsed := true, clientHandle := (generateHandler w i).2 }) hi (by simp [hu])
  have hcount : usedClients (w.setClient i { isUsed := true, clientHandle := (generateHandler w i).2 }) =
      usedClients w + 1 := by simpa using hused
  change w.numClients + 1 = _
  rw [hw.clients]
  exact_mod_cast hcount.symm

theorem jpegOpen_cases {w : World} (hw : w.numClients = usedClients w) (init : Bool) :
    (jpegOpen init w).1 = w ∨ (jpegOpen init w).1 = (newClient { w with opened := true }).1 := by
  unfold jpegOpen
  by_cases hi : (!w.opened) = true ∧ (!init) = true
  · rw [if_pos hi]
    exact .inl rfl
  rw [if_neg hi]
  refine .inr ?_
  by_cases hz : (newClient { w with opened := true }).2 = 0 ∧
      (newClient { w with opened := true }).1.numClients = 0
  · exfalso
    rcases newClient_cases { w with opened := true } with ⟨he, -, hfull⟩ | ⟨i, -, -, hne, -⟩
    · have hzero := hz.2
      rw [he] at hzero
      rcases hfull with hfull | hfull
      · rw [hzero] at hfull
        exact absurd hfull (by decide)
      · have hc := hw.symm.trans hzero
        have hfull' : usedClients w = maxJpegClientNum := hfull
        rw [hfull'] at hc
        exact absurd hc (by decide)
    · exact hne hz.1
  · rw [if_neg hz]

theorem jpegOpen_counters {w : World} (hw : CountersInv w) (init : Bool) :
    CountersInv (jpegOpen init w).1 := by
  rcases jpegOpen_cases hw.clients init with he | he
  · rw [he]
    exact hw
  · rw [he]
    exact newClient_counters ⟨hw.clients, hw.sessions, hw.owned, hw.distinct⟩

theorem destroySessionUnlocked_counters (w : World) (s : Slot) :
    CounterFrame w (destroySessionUnlocked w s) := by
  have hjobs : CounterFrame w (removeJobs w (w.session s).sessionId) := (removeJobs_frame ..).counters
  have habort := hjobs.trans (sessionAbort_steady (chainOf w s) _).counters
  have hremove := habort.trans (removeSessionIdx_counters _ (w.session s).sessionId)
  exact hremove.trans ⟨rfl, rfl, rfl, rfl, fun _ => rfl, fun _ => rfl⟩

theorem closeSessions_counters (c : Nat) (l : List Nat) (w : World) :
    CounterFrame w (l.foldl (fun w i =>
      if (w.session ⟨c, i⟩).active then destroySessionUnlocked w ⟨c, i⟩ else w) w) := by
  induction l generalizing w with
  | nil => exact ⟨rfl, rfl, rfl, rfl, fun _ => rfl, fun _ => rfl⟩
  | cons i l ih =>
    rw [List.foldl_cons]
    split_ifs
    · exact (destroySessionUnlocked_counters w _).trans (ih _)
    · exact ih w

theorem closeSessions_idle {c : Nat} {l : List Nat} {w : World}
    (h : ∀ i ∈ l, (w.session ⟨c, i⟩).active = false) :
    l.foldl (fun w i =>
      if (w.session ⟨c, i⟩).active then destroySessionUnlocked w ⟨c, i⟩ else w) w = w := by
  induction l with
  | nil => rfl
  | cons i l ih =>
    rw [List.foldl_cons, if_neg (by rw [h i (List.mem_cons_self ..)]; decide)]
    exact ih fun j hj => h j (List.mem_cons_of_mem _ hj)

theorem close_live {w : World} {hdl : Nat} (hl : LiveClient w hdl) (hw : CountersInv w) :
    (close hdl w).2 = 0 ∧
      CountersInv { (close hdl w).1 with numClients := (close hdl w).1.numClients - 1 } ∧
      (close hdl w).1.numClients = w.numClients ∧ openHandles (close hdl w).1 = openHandles w := by
  obtain ⟨hc, hu, -⟩ := hl
  unfold close
  rw [if_neg (by omega)]
  have hframe := closeSessions_counters (getIndexByHandler hdl) (List.range maxSession) w
  generalize (List.range maxSession).foldl _ w = v at hframe ⊢
  have hv := hframe.inv hw
  refine ⟨rfl, hv.drop ?_ rfl rfl rfl (clearSessions_handle v _), hframe.numClients,
    hframe.openHandles⟩
  have hused := usedClients_setClient (w := v) (i := getIndexByHandler hdl) (c := {}) hc
    (by rw [hframe.client, hu]; decide)
  have hcount : usedClients v = usedClients (v.setClient (getIndexByHandler hdl) {}) + 1 := by
    simpa using hused
  change v.numClients - 1 = _
  have hclients := hv.clients
  rw [hcount] at hclients
  rw [hclients]
  change _ = (usedClients (v.setClient (getIndexByHandler hdl) {}) : Int)
  omega

theorem deinit_counters {w : World} (h : openHandles w = 0) : CountersInv (deinit w) :=
  ⟨rfl, h.symm, fun _ _ h => (by cases h), fun _ _ _ h => (by cases h)⟩

theorem intfClose_counters {w : World} {hdl : Nat} (hw : CountersInv w)
    (hc : (Call.close hdl).Held w) : CountersInv (intfClose hdl w).1 := by
  unfold intfClose
  dsimp only
  by_cases hz : hdl = 0
  · rw [if_pos hz]
    exact hw
  rw [if_neg hz]
  by_cases ho : (!w.opened) = true
  · rw [if_pos ho]
    exact hw
  rw [if_neg ho]
  rcases hc with hc | hc | ⟨hlive, hlast⟩
  · exact absurd hc hz
  · exact absurd (by rw [hc]; rfl) ho
  · obtain ⟨hrc, hinv, hn, hopen⟩ := close_live hlive hw
    rw [hrc]
    by_cases hd : (0 : Int) = 0 ∧ (close hdl w).1.numClients - 1 = 0
    · rw [if_pos hd]
      refine deinit_counters ?_
      have hone : w.numClients = 1 := by
        rw [← hn]
        omega
      exact hopen.trans (hlast hone)
    · rw [if_neg hd]
      exact hinv

theorem linkSession_counters (count i : Nat) (chain : List Slot) (s : Slot) (w : World) :
    CounterFrame w (linkSession count i chain s w) := by
  have hlinks : ∀ (l : List Slot) (v : World), CounterFrame v (l.foldl (appendNext s) v) := by
    intro l
    induction l with
    | nil => exact fun v => ⟨rfl, rfl, rfl, rfl, fun _ => rfl, fun _ => rfl⟩
    | cons t l ih =>
      intro v
      have hlink : CounterFrame v (appendNext s v t) := .setSession rfl
      exact hlink.trans (ih _)
  unfold linkSession
  refine CounterFrame.trans (CounterFrame.trans ?_ (hlinks chain _)) (.setSession rfl)
  exact .setSession rfl

theorem registerSession_counters (hdl q : Nat) (params : EncodeParams) (enq : Bool) (s : Slot)
    {w : World} (hw : CountersInv w) : CountersInv (registerSession hdl q params enq s w) := by
  have hreg : CountersInv (registerSession hdl q params false s w) := by
    have hold : ∀ h < w.nextHandle,
        ((registerSession hdl q params false s w).component h).freeHandle =
          (w.component h).freeHandle := by
      intro h hh
      change (if h = w.nextHandle then ({} : Component) else w.component h).freeHandle = _
      rw [if_neg (by omega)]
    have hnew : ((registerSession hdl q params false s w).component w.nextHandle).freeHandle = 0 := by
      change (if w.nextHandle = w.nextHandle then ({} : Component) else _).freeHandle = 0
      rw [if_pos rfl]
    have hsession : ∀ t, ((registerSession hdl q params false s w).session t).omxHandle =
        if t = s then some w.nextHandle else (w.session t).omxHandle := by
      intro t
      change (if t = s then _ else w.session t).omxHandle = _
      split_ifs <;> rfl
    refine ⟨hw.clients, ?_, fun t h ht => ?_, fun t u h ht hu => ?_⟩
    · change w.numSessions + 1 = (List.range (w.nextHandle + 1)).countP _
      rw [List.range_succ, List.countP_append, List.countP_singleton, hnew, hw.sessions]
      have hcongr := Tally.countP_congr_mem (l := List.range w.nextHandle)
        (p := fun h => ((registerSession hdl q params false s w).component h).freeHandle == 0)
        (q := fun h => (w.component h).freeHandle == 0)
        fun h hh => by rw [hold h (List.mem_range.mp hh)]
      rw [hcongr]
      rfl
    · change h < w.nextHandle + 1 ∧ _
      rw [hsession] at ht
      split_ifs at ht
      · obtain rfl := Option.some.inj ht
        exact ⟨by omega, hnew⟩
      · obtain ⟨hlt, hfree⟩ := hw.owned t h ht
        exact ⟨by omega, (hold h hlt).trans hfree⟩
    · rw [hsession] at ht hu
      split_ifs at ht with hts
      · obtain rfl := Option.some.inj ht
        split_ifs at hu with hus
        · rw [hts, hus]
        · exact absurd (hw.owned u _ hu).1 (by omega)
      · split_ifs at hu with hus
        · obtain rfl := Option.some.inj hu
          exact absurd (hw.owned t _ ht).1 (by omega)
        · exact hw.distinct t u h ht hu
  cases enq with
  | false => exact hreg
  | true =>
    have hframe : CounterFrame (registerSession hdl q params false s w)
        (registerSession hdl q params true s w) :=
      ⟨rfl, rfl, rfl, rfl, fun _ => rfl, fun _ => rfl⟩
    exact hframe.inv hreg

theorem registerSession_handle (hdl q : Nat) (params : EncodeParams) (enq : Bool) (s : Slot)
    (w : World) :
    ((registerSession hdl q params enq s w).session s).omxHandle = some w.nextHandle := by
  have hreg : (registerSession hdl q params enq s w).session s =
      if s = s then { w.session s with
        omxHandle := some w.nextHandle, params := params, clientHdl := hdl
        sessionId := packSession s, queues := some q }
      else w.session s := by cases enq <;> rfl
  rw [hreg, if_pos rfl]

theorem joinChain_counters {count i hdl q : Nat} {params : EncodeParams} {enq : Bool}
    {conf : Configure} {chain : List Slot} {s : Slot} {w : World} (hw : CountersInv w) :
    CountersInv (joinChain count i hdl q params enq conf chain s w).1 := by
  have hlink := (linkSession_counters count i chain s w).inv hw
  have hreg := registerSession_counters hdl q params enq s hlink
  exact (configureSession_steady conf (registerSession_handle ..)).counters.inv hreg

theorem createSessions_counters (count hdl q : Nat) (params : EncodeParams) (o : Creation)
    (k i : Nat) (chain : List Slot) (id : Nat) {w : World} (hw : CountersInv w) :
    CountersInv (createSessions count hdl q params o k i chain id w).1 := by
  induction k generalizing i chain id w with
  | zero => exact hw
  | succ k ih =>
    rw [createSessions]
    split
    · exact hw
    rename_i s _
    by_cases hg : (!o.getHandle i) = true
    · rw [if_pos hg]
      exact CounterFrame.inv (.setSession rfl) ((linkSession_counters count i chain s w).inv hw)
    · rw [if_neg hg]
      by_cases hr : (joinChain count i hdl q params (o.enqHandle i) (o.configure i) chain s w).2 = true
      · rw [if_pos hr]
        exact ih _ _ _ (joinChain_counters hw)
      · rw [if_neg hr]
        exact joinChain_counters hw

theorem teardown_counters {w : World} {s : Slot} {h : Nat} {o : Teardown} (hw : CountersInv w)
    (hs : (w.session s).omxHandle = some h) (ho : o.freeHandle = true) :
    CountersInv (teardownSession o s h w) := by
  obtain ⟨hlt, hfree⟩ := hw.owned s h hs
  obtain ⟨p, f, hsession⟩ := sessionTeardown_session o (w.session s) (w.component h)
  have hnone : (sessionTeardown o (w.session s) (w.component h)).1.omxHandle = none := by rw [hsession]
  have hfreed : (sessionTeardown o (w.session s) (w.component h)).2.freeHandle = 1 := by
    rw [(sessionTeardown_rest _ _ _).1, ho, hfree]
    rfl
  unfold teardownSession
  generalize sessionTeardown o (w.session s) (w.component h) = r at hnone hfreed
  have hkept : ∀ t k, ((w.setSession s r.1).session t).omxHandle = some k →
      t ≠ s ∧ (w.session t).omxHandle = some k := by
    intro t k ht
    rw [session_setSession] at ht
    split_ifs at ht with hts
    · rw [hnone] at ht
      cases ht
    · exact ⟨hts, ht⟩
  refine ⟨hw.clients, ?_, fun t k ht => ?_, fun t u k ht hu => ?_⟩
  · -- only the handle's own test changes its answer
    have hflip := Tally.countP_flip (l := List.range w.nextHandle) (a := h)
      (p := fun k => ((w.setComponent h r.2).component k).freeHandle == 0)
      (q := fun k => (w.component k).freeHandle == 0) List.nodup_range (List.mem_range.mpr hlt)
      (by rw [component_setComponent, if_pos rfl, hfreed]; rfl) (by rw [hfree]; rfl)
      (fun k hk => by rw [component_setComponent, if_neg hk])
    have hcount := hw.sessions
    unfold openHandles at hcount
    rw [hflip] at hcount
    change w.numSessions - 1 = (List.range w.nextHandle).countP _
    rw [hcount]
    rfl
  · obtain ⟨hts, ht'⟩ := hkept t k ht
    obtain ⟨hk, hf⟩ := hw.owned t k ht'
    have hne : k ≠ h := fun hkh => hts (hw.distinct t s k ht' (hkh ▸ hs))
    refine ⟨hk, ?_⟩
    change (if k = h then r.2 else w.component k).freeHandle = 0
    rw [if_neg hne]
    exact hf
  · exact hw.distinct t u k (hkept t k ht).2 (hkept u k hu).2

theorem sessionDestroy_counters {o : Slot → Teardown} {chain : List Slot} {w : World}
    (hw : CountersInv w) (ho : ∀ s ∈ chain, (o s).freeHandle = true) :
    CountersInv (sessionDestroy o chain w) := by
  induction chain generalizing w with
  | nil => exact hw
  | cons s rest ih =>
    rw [sessionDestroy]
    split
    · exact hw
    · rename_i h hs
      exact ih (teardown_counters hw hs (ho s (List.mem_cons_self ..)))
        fun t ht => ho t (List.mem_cons_of_mem _ ht)

theorem removeChain_counters (chain : List Slot) (w : World) :
    CounterFrame w (chain.foldl (fun w t => removeSessionIdx w (w.session t).sessionId) w) := by
  induction chain generalizing w with
  | nil => exact ⟨rfl, rfl, rfl, rfl, fun _ => rfl, fun _ => rfl⟩
  | cons s rest ih => exact (removeSessionIdx_counters w _).trans (ih _)

theorem destroyQueues_counters (s : Slot) (q id : Nat) (w : World) :
    CounterFrame w (destroyQueues s q id w) := by
  refine ⟨rfl, rfl, rfl, rfl, fun t => ?_, fun _ => rfl⟩
  change (if t = s then _ else w.session t).omxHandle = _
  by_cases hts : t = s
  · rw [if_pos hts, hts]
    rfl
  · rw [if_neg hts]

theorem destroySession_counters {o : Slot → Teardown} {s : Slot} {w w' : World} (hw : CountersInv w)
    (ho : ∀ t ∈ chainOf w s, (o t).freeHandle = true) (h : destroySession o s w = some w') :
    CountersInv w' := by
  have hjobs : CounterFrame w (removeJobs w (w.session s).sessionId) := (removeJobs_frame ..).counters
  have habort := hjobs.trans (sessionAbort_steady (chainOf w s) _).counters
  have hdestroy := sessionDestroy_counters (habort.inv hw) ho
  have hremove : CountersInv (destroyChain o s w) := (removeChain_counters _ _).inv hdestroy
  unfold destroySession at h
  split at h
  · cases h
  · rename_i q _
    obtain rfl := Option.some.inj h
    exact (destroyQueues_counters s q _ _).inv hremove

theorem createSession_counters {count hdl : Nat} {params : EncodeParams} {o : Creation} {w : World}
    (hw : CountersInv w) : CountersInv (createSession count hdl params o w).1 := by
  have hqueues : ∀ v : World, CountersInv v →
      CountersInv { v.setQueues v.nextQueues {} with nextQueues := v.nextQueues + 1 } :=
    fun v hv => ⟨hv.clients, hv.sessions, hv.owned, hv.distinct⟩
  have hissued : ∀ (v : World) (id : Nat), CountersInv v →
      CountersInv (if id = 0 then v else { v with issued := id :: v.issued }) := by
    intro v id hv
    split_ifs
    · exact hv
    · exact ⟨hv.clients, hv.sessions, hv.owned, hv.distinct⟩
  unfold createSession
  dsimp only
  by_cases hbuf : maxJpegBuf < params.numSrcBufs ∨ maxJpegBuf < params.numDstBufs
  · rw [if_pos hbuf]
    exact hw
  rw [if_neg hbuf]
  by_cases hidx : maxJpegClientNum ≤ getIndexByHandler hdl
  · rw [if_pos hidx]
    exact hw
  rw [if_neg hidx]
  by_cases hh : (!o.mallocHandles) = true
  · rw [if_pos hh]
    exact hw
  rw [if_neg hh]
  by_cases ho : (!o.mallocOutBufs) = true
  · rw [if_pos ho]
    exact hqueues w hw
  rw [if_neg ho]
  have hloop := createSessions_counters count hdl w.nextQueues params o
    (if params.burstMode then count else 1) 0 [] 0 (hqueues w hw)
  have hid := hissued _ (createSessions count hdl w.nextQueues params o
    (if params.burstMode then count else 1) 0 [] 0
    { w.setQueues w.nextQueues {} with nextQueues := w.nextQueues + 1 }).2.2 hloop
  split
  · exact hid
  · exact ⟨hid.clients, hid.sessions, hid.owned, hid.distinct⟩

theorem call_counters {count : Nat} {w w' : World} {c : Call} {r : Reply} (hw : CountersInv w)
    (hc : c.Held w) (h : call count w c = some (w', r)) : CountersInv w' := by
  cases call_effect h with
  | refused c => exact hw
  | opened init => exact jpegOpen_counters hw init
  | closed hdl => exact intfClose_counters hw hc
  | created params o hz ho => exact createSession_counters hw
  | destroyed hz ho hv hd =>
    exact destroySession_counters hw ((hc.resolve_left hz).resolve_left ho).2 hd
  | started job o ho => exact (startJob_frame count job o w).counters.inv hw
  | aborted hz ho => exact (abortJob_steady _ w).counters.inv hw

theorem step_counters {count : Nat} {w w' : World} {e : Event} (hw : CountersInv w) (he : e.Held w)
    (h : step count w e = some w') : CountersInv w' := by
  cases e with
  | call c =>
    obtain ⟨⟨v, r⟩, hv, rfl⟩ := Option.map_eq_some_iff.mp h
    exact call_counters hw he hv
  | wake o => exact (jobmgrWake_frame h).counters.inv hw
  | submit taken o => exact (encodeSubmit_steady h).counters.inv hw
  | fillBufferDone s o => exact (fbd_steady h).counters.inv hw
  | omxEvent s ev o => exact (eventHandler_steady h).counters.inv hw

theorem dead_rejected {count : Nat} {w : World} {e : Event} (he : e.Held w) :
    DeadRejected count w e := by
  cases e with
  | call c =>
    intro hdead hlock
    unfold call
    rw [if_neg hlock]
    have hshut : w.opened = false → (!w.opened) = true := fun ho => by rw [ho]; rfl
    cases c with
    | «open» init => exact absurd hdead id
    | close hdl =>
      refine ⟨{ rc := -1 }, ?_, by decide⟩
      dsimp only
      unfold intfClose
      rcases he with hz | ho | ⟨hl, -⟩
      · rw [if_pos hz]
      · rw [if_pos (hshut ho), ite_self]
      · exact absurd hl hdead
    | createSession hdl params o =>
      refine ⟨{ rc := -1 }, ?_, by decide⟩
      dsimp only
      unfold intfCreateSession
      rcases he with hz | ho | hl
      · rw [if_pos hz]
      · rw [if_pos (hshut ho), ite_self]
      · exact absurd hl hdead
    | destroySession id o =>
      refine ⟨{ rc := -1 }, ?_, by decide⟩
      dsimp only
      unfold intfDestroySession
      rcases he with hz | ho | ⟨hl, -⟩
      · rw [if_pos hz]
      · rw [if_pos (hshut ho), ite_self]
      · exact absurd hl hdead
    | startJob job o =>
      refine ⟨{ rc := -1 }, ?_, by decide⟩
      cases job with
      | none => exact absurd hdead id
      | some job =>
        unfold intfStartJob
        dsimp only
        rcases he with ho | hv | hl
        · rw [if_pos (hshut ho)]
        · by_cases ho : (!w.opened) = true
          · rw [if_pos ho]
          · rw [if_neg ho]
            unfold startJob
            rw [if_pos (by rw [hv]; rfl)]
        · exact absurd hl hdead
    | abortJob id => exact absurd hdead fun h => h
  | wake o => trivial
  | submit taken o => trivial
  | fillBufferDone s o => trivial
  | omxEvent s ev o => trivial

/-- When the clients use the handles and session ids they hold, the counters stay right in every
state, and a dead handle or id is refused without effect. -/
theorem handles_checked {count : Nat} {es : List Event} {w : World}
    (hheld : Runs.Along (step count) (fun v e => e.Held v) {} es)
    (h : Runs.play (step count) {} es = some w) :
    CountersAgree w ∧ Runs.Along (step count) (DeadRejected count) {} es := by
  have hinv : CountersInv w := Runs.play_invariant (P := fun v e => e.Held v)
    (fun v e v' hv he hs => step_counters hv he hs) countersInv_init hheld h
  exact ⟨hinv.agree, hheld.imp fun v e he => dead_rejected he⟩

/-- A client opens, makes a session, closes with no handle, destroys its session and closes. -/
theorem handles_checked_run :
    ∃ w, Runs.play (step 1) {} [.call (.open true), .call (.createSession 256 { jpegCb := true } {}),
        .call (.close 0), .call (.destroySession (packSession ⟨0, 0⟩) fun _ => {}),
        .call (.close 256)] = some w ∧ CountersAgree w ∧
      Runs.Along (step 1) (DeadRejected 1) {} [.call (.open true),
        .call (.createSession 256 { jpegCb := true } {}), .call (.close 0),
        .call (.destroySession (packSession ⟨0, 0⟩) fun _ => {}), .call (.close 256)] :=
  ⟨_, rfl, handles_checked (by decide) rfl⟩

/-- Closing a handle that was never issued returns an error and counts a client off. -/
theorem handles_unchecked_close :
    ¬∀ (count : Nat) (es : List Event) (w : World), Runs.play (step count) {} es = some w →
      CountersAgree w ∧ Runs.Along (step count) (DeadRejected count) {} es := by
  intro hall
  have hafter := hall 1 [.call (.open true), .call (.close 8)] _ rfl
  exact absurd (hafter.1 rfl).1 (by decide)

end Jpeg
