import Wt88047.Jpeg.ClientHandles
import Wt88047.Jpeg.ChainCreation
import Wt88047.Jpeg.JobMoves

/-! A session chain that gets all its handles and queue entries starts with every member on its
queue, and the making of it leaves the other chains and the jobs alone. -/

namespace Jpeg

open World

def Creation.Stocks (o : Creation) (count : Nat) (params : EncodeParams) : Prop :=
  ∀ i < (if params.burstMode then count else 1), o.getHandle i = true ∧ o.enqHandle i = true

instance (o : Creation) (count : Nat) (params : EncodeParams) :
    Decidable (o.Stocks count params) :=
  inferInstanceAs (Decidable (∀ i < (if params.burstMode then count else 1), _ ∧ _))

structure ChainStock (w v : World) (q : Nat) (chain : List Slot) (id : Nat) : Prop where
  loop : ChainLoop v q chain id
  jobs : v.jobs = w.jobs
  issued : v.issued = w.issued
  clients : v.client = w.client ∧ v.numClients = w.numClients
  queues : ∀ r, r ≠ q → v.queues r = w.queues r
  session : ∀ s, (w.session s).active = true → s ∉ chain ∧ v.session s = w.session s
  handles : (v.queues q).handles = chain
  outBufs : (v.queues q).outBufs = []
  owned : ∀ s ∈ chain, ∃ h, (v.session s).omxHandle = some h

theorem appendNext_jobs (s : Slot) (chain : List Slot) (w : World) :
    (chain.foldl (appendNext s) w).jobs = w.jobs := by
  induction chain generalizing w with
  | nil => rfl
  | cons a rest ih => exact ih _

theorem linkSession_jobs (count i : Nat) (chain : List Slot) (s : Slot) (w : World) :
    (linkSession count i chain s w).jobs = w.jobs ∧
      (linkSession count i chain s w).queues = w.queues := by
  have hlinked := appendNext_rest s chain
    (w.onSession s fun p => { p with active := true, nextSession := [] })
  have hjobs := appendNext_jobs s chain
    (w.onSession s fun p => { p with active := true, nextSession := [] })
  unfold linkSession
  exact ⟨hjobs, hlinked.2.2.2.2.2.1⟩

theorem joinChain_queues (count i hdl q : Nat) (params : EncodeParams) (conf : Configure)
    (chain : List Slot) (s : Slot) (w : World) :
    (joinChain count i hdl q params true conf chain s w).1.jobs = w.jobs ∧
      ∀ r, (joinChain count i hdl q params true conf chain s w).1.queues r =
        if r = q then { w.queues q with handles := (w.queues q).handles ++ [s] } else w.queues r := by
  have hregister : ∀ v : World, (registerSession hdl q params true s v).jobs = v.jobs ∧
      ∀ r, (registerSession hdl q params true s v).queues r =
        if r = q then { v.queues q with handles := (v.queues q).handles ++ [s] } else v.queues r :=
    fun v => ⟨rfl, fun r => rfl⟩
  have hconfigure : ∀ (h : Nat) (v : World), (configureSession conf s h v).1.jobs = v.jobs ∧
      (configureSession conf s h v).1.queues = v.queues := fun h v => ⟨rfl, rfl⟩
  obtain ⟨hjobs, hqueues⟩ := linkSession_jobs count i chain s w
  obtain ⟨hjobs', hqueues'⟩ := hregister (linkSession count i chain s w)
  refine ⟨(hconfigure _ _).1.trans (hjobs'.trans hjobs), fun r => ?_⟩
  rw [← hqueues, ← hqueues']
  exact congrFun (hconfigure _ _).2 r

theorem ChainStock.join (count i hdl : Nat) {q id : Nat} (params : EncodeParams) (conf : Configure)
    {chain : List Slot} {s : Slot} {w v : World} (hv : ChainStock w v q chain id)
    (hs : (v.session s).active = false) (hc : s.client < maxJpegClientNum)
    (hu : (v.client s.client).isUsed = true) (hi : s.idx < maxSession) :
    ChainStock w (joinChain count i hdl q params true conf chain s v).1 q (chain ++ [s])
      (if id = 0 then packSession s else id) := by
  have hj := joinChain_joined count i hdl q params true conf (w := v) hv.loop.nodup
    (hv.loop.not_mem hs)
  obtain ⟨hjobs, hqueues⟩ := joinChain_queues count i hdl q params conf chain s v
  refine ⟨hv.loop.join hs hc hu hi hj, hjobs.trans hv.jobs, hj.issued.trans hv.issued,
    ⟨hj.client.trans hv.clients.1, hj.numClients.trans hv.clients.2⟩, fun r hr => ?_, fun t ht => ?_,
    ?_, ?_, fun t ht => ?_⟩
  · rw [hqueues, if_neg hr]
    exact hv.queues r hr
  · obtain ⟨hmem, hsame⟩ := hv.session t ht
    have hts : t ≠ s := fun he => by
      rw [he] at hsame ht
      rw [hsame, ht] at hs
      cases hs
    refine ⟨fun hm => ?_, (hj.other t hts hmem).trans hsame⟩
    rcases List.mem_append.mp hm with hm | hm
    · exact hmem hm
    · exact hts (List.mem_singleton.mp hm)
  · rw [hqueues, if_pos rfl]
    exact congrArg (· ++ [s]) hv.handles
  · rw [hqueues, if_pos rfl]
    exact hv.outBufs
  · by_cases hts : t = s
    · rw [hts]
      exact ⟨_, hj.self.2.2.2.2⟩
    · rw [(hj.keep hts).2.2.2]
      rcases List.mem_append.mp ht with ht | ht
      · exact hv.owned t ht
      · exact absurd (List.mem_singleton.mp ht) hts

theorem createSessions_stock (count : Nat) {hdl q : Nat} (params : EncodeParams) (o : Creation)
    (hc : getIndexByHandler hdl < maxJpegClientNum) (k i : Nat) (chain : List Slot) (id : Nat)
    {w v : World} (hv : ChainStock w v q chain id)
    (hu : (w.client (getIndexByHandler hdl)).isUsed = true)
    (ho : ∀ j < i + k, o.getHandle j = true ∧ o.enqHandle j = true) :
    ∃ chain', ChainStock w (createSessions count hdl q params o k i chain id v).1 q chain'
      (createSessions count hdl q params o k i chain id v).2.2 := by
  induction k generalizing i chain id v with
  | zero => exact ⟨chain, hv⟩
  | succ k ih =>
    rw [createSessions]
    rcases Option.eq_none_or_eq_some (newSessionIdx v (getIndexByHandler hdl)) with hn | ⟨s, hn⟩
    · rw [hn]
      exact ⟨chain, hv⟩
    rw [hn]
    obtain ⟨hsc, hsi, hs⟩ := newSessionIdx_spec hn
    obtain ⟨hget, henq⟩ := ho i (by omega)
    dsimp only
    rw [if_neg (by rw [hget]; decide), henq]
    have hjoin := hv.join count i hdl params (o.configure i) hs (by rw [hsc]; exact hc)
      (by rw [hsc, hv.clients.1]; exact hu) hsi
    by_cases hconf : (joinChain count i hdl q params true (o.configure i) chain s v).2 = true
    · simp only [if_pos hconf]
      exact ih (i + 1) (chain ++ [s]) _ hjoin fun j hj => ho j (by omega)
    · simp only [if_neg hconf]
      exact ⟨chain ++ [s], hjoin⟩

theorem ChainShape.startStock {w : World} (hw : ChainShape w) :
    ChainStock w { w.setQueues w.nextQueues {} with nextQueues := w.nextQueues + 1 }
      w.nextQueues [] 0 := by
  refine ⟨⟨hw.range, hw.used, hw.packed, fun j hj => ?_, hw.own,
    fun s hs => .inr (hw.member s hs), List.nodup_nil, fun t => ?_, fun s rest he => (by cases he),
    fun _ => rfl, rfl⟩, rfl, rfl, ⟨rfl, rfl⟩, fun r hr => ?_, fun s _ => ⟨by simp, rfl⟩, ?_, ?_,
    fun s hs => (by cases hs)⟩
  · obtain ⟨q, hlt, hq⟩ := hw.head j hj
    exact ⟨q, hlt, hq.packed, hq.nodup, hq.mem_iff⟩
  · refine iff_of_false (by simp) ?_
    rintro ⟨ht, hq⟩
    obtain ⟨r, hlt, hr⟩ := hw.queues_lt ht
    have hqr := Option.some.inj (hq.symm.trans hr)
    omega
  · change (if r = w.nextQueues then _ else w.queues r) = _
    rw [if_neg hr]
  · change (if w.nextQueues = w.nextQueues then ({} : SessionQueues) else _).handles = []
    rw [if_pos rfl]
  · change (if w.nextQueues = w.nextQueues then ({} : SessionQueues) else _).outBufs = []
    rw [if_pos rfl]

structure Extends (w w' : World) : Prop where
  chains : ChainShape w'
  clients : w'.numClients = usedClients w'
  jobs : ({ w' with jobSem := w.jobSem } : World).jobs = w.jobs
  jobSem : w.jobQueue ≠ [] → w'.jobSem = w.jobSem
  session : ∀ s, (w.session s).active = true → w'.session s = w.session s
  queues : ∀ id ∈ w.issued, ∀ q, (w.session (slotOf id)).queues = some q → w'.queues q = w.queues q
  issued : ∀ id ∈ w.issued, id ∈ w'.issued
  stocked : ∀ id ∈ w'.issued, id ∉ w.issued → ∀ q, (w'.session (slotOf id)).queues = some q →
    (w'.queues q).handles = chainOf w' (slotOf id)
  owned : ∀ s, (w'.session s).active = true →
    (w.session s).active = true ∨ ∃ h, (w'.session s).omxHandle = some h

theorem Extends.refl {w : World} (hw : ChainShape w) (hc : w.numClients = usedClients w) :
    Extends w w :=
  ⟨hw, hc, rfl, fun _ => rfl, fun _ _ => rfl, fun _ _ _ _ => rfl, fun _ h => h, fun _ h h' => absurd h h',
    fun _ h => .inl h⟩

theorem jobs_sem {w w' : World} (h : w'.jobs = w.jobs) :
    ({ w' with jobSem := w.jobSem } : World).jobs = w.jobs := by
  have hsem : w'.jobSem = w.jobSem := congrArg (·.2.2.2.2.2) h
  rw [← h, ← hsem]

theorem extends_idle {w w' : World} (hw : ChainShape w) (hc : w'.numClients = usedClients w')
    (hj : w'.jobs = w.jobs) (hi : w'.issued = w.issued) (hn : w'.nextQueues = w.nextQueues)
    (hq : w'.queues = w.queues)
    (hs : ∀ s, (w.session s).active = true → w'.session s = w.session s)
    (hs' : ∀ s, (w'.session s).active = true → (w.session s).active = true)
    (hu : ∀ s, (w.session s).active = true → (w'.client s.client).isUsed = true) : Extends w w' :=
  ⟨hw.of_active hi hn hs hs' hu, hc, jobs_sem hj, fun _ => congrArg (·.2.2.2.2.2) hj, hs, fun _ _ _ _ => by rw [hq],
    fun _ h => by rw [hi]; exact h, fun _ h h' => absurd (by rw [← hi]; exact h) h',
    fun s h => .inl (hs' s h)⟩

theorem clearSessions_active {w : World} {c : Nat}
    (hc : ∀ s, s.client = c → (w.session s).active = false) :
    (∀ s, (w.session s).active = true → (clearSessions w c).session s = w.session s) ∧
      ∀ s, ((clearSessions w c).session s).active = true → (w.session s).active = true := by
  refine ⟨fun s hs => ?_, fun s hs => ?_⟩
  · rw [session_clearSessions, if_neg]
    intro he
    rw [hc s he] at hs
    cases hs
  · rw [session_clearSessions] at hs
    split_ifs at hs
    exact hs

theorem newClient_extends {w : World} (hw : ChainShape w) (hc : w.numClients = usedClients w) :
    Extends w (newClient w).1 := by
  rcases newClient_cases w with ⟨he, -, -⟩ | ⟨i, hi, hu, -, he⟩
  · rw [he]
    exact .refl hw hc
  rw [he]
  have hno : ∀ s : Slot, s.client = i → (w.session s).active = false := by
    intro s hs
    cases ha : (w.session s).active with
    | false => rfl
    | true =>
      have hused := hw.used s ha
      rw [hs, hu] at hused
      cases hused
  obtain ⟨hkeep, hback⟩ := clearSessions_active hno
  refine extends_idle hw ?_ rfl rfl rfl rfl hkeep hback fun s hs => ?_
  · have hused := usedClients_setClient (w := w) (i := i)
      (c := { isUsed := true, clientHandle := (generateHandler w i).2 }) hi (by simp [hu])
    have hcount : usedClients (w.setClient i
        { isUsed := true, clientHandle := (generateHandler w i).2 }) = usedClients w + 1 := by
      simpa using hused
    change w.numClients + 1 = _
    rw [hc]
    exact_mod_cast hcount.symm
  · change (if s.client = i then _ else w.client s.client : Client).isUsed = true
    split_ifs
    · rfl
    · exact hw.used s hs

theorem no_sessions {w : World} (hw : ChainShape w) (hc : w.numClients = usedClients w)
    (h : w.numClients = 0) (s : Slot) : (w.session s).active = false := by
  have hnone : usedClients w = 0 := by
    rw [h] at hc
    exact_mod_cast hc.symm
  cases ha : (w.session s).active with
  | false => rfl
  | true =>
    have hmem := List.mem_range.mpr (hw.range s ha).1
    exact absurd (hw.used s ha) (List.countP_eq_zero.mp hnone _ hmem)

theorem jpegOpen_extends {w : World} (hw : ChainShape w) (hc : w.numClients = usedClients w)
    (init : Bool) : Extends w (jpegOpen init w).1 := by
  rcases jpegOpen_cases hc init with he | he
  · rw [he]
    exact .refl hw hc
  · rw [he]
    have hopen : ChainShape { w with opened := true } :=
      hw.of_active rfl rfl (fun _ _ => rfl) (fun _ h => h) hw.used
    obtain ⟨h1, h2, h3, h4, h5, h6, h7, h8, h9⟩ := newClient_extends hopen hc
    exact ⟨h1, h2, h3, h4, h5, h6, h7, h8, h9⟩

theorem intfClose_extends {w : World} {hdl : Nat} (hw : ChainShape w)
    (hc : w.numClients = usedClients w)
    (hjobs : w.issued = [] → w.jobQueue = [] ∧ w.ongoingJobQ = [])
    (hclose : hdl = 0 ∨ w.opened = false ∨ LiveClient w hdl ∧
      ∀ i < maxSession, (w.session ⟨getIndexByHandler hdl, i⟩).active = false) :
    Extends w (intfClose hdl w).1 := by
  unfold intfClose
  by_cases hz : hdl = 0
  · rw [if_pos hz]
    exact .refl hw hc
  rw [if_neg hz]
  by_cases ho : (!w.opened) = true
  · rw [if_pos ho]
    exact .refl hw hc
  rw [if_neg ho]
  obtain ⟨⟨hlt, hu, -⟩, hidle⟩ := (hclose.resolve_left hz).resolve_left fun h => ho (by rw [h]; rfl)
  have hno : ∀ s : Slot, s.client = getIndexByHandler hdl → (w.session s).active = false := by
    intro s hs
    cases ha : (w.session s).active with
    | false => rfl
    | true =>
      have hi := hidle s.idx (hw.range s ha).2
      rw [← hs, ha] at hi
      exact hi
  have hclosed : close hdl w =
      ((clearSessions w (getIndexByHandler hdl)).setClient (getIndexByHandler hdl) {}, 0) := by
    have hfold := closeSessions_idle (c := getIndexByHandler hdl) (l := List.range maxSession) (w := w)
      fun i _ => hno ⟨_, i⟩ rfl
    unfold close
    rw [if_neg (by omega), hfold]
  obtain ⟨hkeep, hback⟩ := clearSessions_active hno
  have hext : Extends w { (clearSessions w (getIndexByHandler hdl)).setClient
      (getIndexByHandler hdl) {} with numClients := w.numClients - 1 } := by
    refine extends_idle hw ?_ rfl rfl rfl rfl hkeep hback fun s hs => ?_
    · have hused := usedClients_setClient (w := w) (i := getIndexByHandler hdl) (c := {}) hlt
        (by rw [hu]; decide)
      have hcount : usedClients w = usedClients (w.setClient (getIndexByHandler hdl) {}) + 1 := by
        simpa using hused
      change w.numClients - 1 = (usedClients (w.setClient (getIndexByHandler hdl) {}) : Int)
      omega
    · have hne : s.client ≠ getIndexByHandler hdl := fun he => by
        rw [hno s he] at hs
        cases hs
      change (if s.client = getIndexByHandler hdl then _ else w.client s.client : Client).isUsed = true
      rw [if_neg hne]
      exact hw.used s hs
  rw [hclosed]
  dsimp only
  by_cases hd : (0 : Int) = 0 ∧ w.numClients - 1 = 0
  · have hgone := no_sessions hext.chains hext.clients hd.2
    have hnil : w.issued = [] := by
      refine List.eq_nil_iff_forall_not_mem.mpr fun id hid => ?_
      have hact := (hext.chains.head_active (hext.issued id hid)).1
      rw [hgone] at hact
      cases hact
    obtain ⟨htodo, hongoing⟩ := hjobs hnil
    have hnone : ∀ s, (w.session s).active ≠ true := fun s hs => by
      have hact := hgone s
      rw [hext.session s hs, hs] at hact
      cases hact
    rw [show ((clearSessions w (getIndexByHandler hdl)).setClient (getIndexByHandler hdl)
      {}).numClients = w.numClients from rfl, if_pos hd]
    refine ⟨⟨fun _ h => (by cases h), fun _ h => (by cases h), fun _ h => (by cases h),
      fun _ h => (by cases h), fun _ h => (by cases h), fun _ h => (by cases h)⟩, rfl, ?_,
      fun hne => absurd htodo hne, fun s hs => absurd hs (hnone s), fun _ _ _ _ => rfl, fun id hid => ?_, fun _ h => (by cases h),
      fun _ h => (by cases h)⟩
    · unfold World.jobs
      rw [htodo, hongoing]
      rfl
    · rw [hnil] at hid
      cases hid
  · rw [show ((clearSessions w (getIndexByHandler hdl)).setClient (getIndexByHandler hdl)
      {}).numClients = w.numClients from rfl, if_neg hd]
    exact hext

namespace ChainStock

variable {w v : World} {q id : Nat} {chain : List Slot}

theorem old_queue (hw : ChainShape w) : ∀ j ∈ w.issued, ∀ r,
    (w.session (slotOf j)).queues = some r → r ≠ w.nextQueues := by
  intro j hj r hr
  obtain ⟨q, hlt, hq⟩ := hw.queues_lt (hw.head_active hj).1
  obtain rfl : r = q := Option.some.inj (hr.symm.trans hq)
  omega

theorem active (hw : ChainShape w) (hv : ChainStock w v q chain id) {s : Slot}
    (hs : (v.session s).active = true) : s ∈ chain ∨ (w.session s).active = true := by
  rcases hv.loop.member s hs with hmem | ⟨j, hj, hmem⟩
  · exact .inl hmem
  · rw [hv.issued] at hj
    obtain ⟨r, -, hr⟩ := hw.head j hj
    have hchain : chainOf v (slotOf j) = chainOf w (slotOf j) := by
      unfold chainOf
      rw [(hv.session _ (hw.head_active hj).1).2]
    rw [hchain] at hmem
    exact .inr ((hr.mem_iff s).mp hmem).1

theorem counted (hv : ChainStock w v q chain id) (hc : w.numClients = usedClients w) :
    v.numClients = usedClients v := by
  unfold usedClients
  rw [hv.clients.1, hv.clients.2]
  exact hc

theorem extends_nil (hw : ChainShape w) (hc : w.numClients = usedClients w)
    (hv : ChainStock w v w.nextQueues [] id) : Extends w v := by
  refine ⟨?_, hv.counted hc, jobs_sem hv.jobs, fun _ => congrArg (·.2.2.2.2.2) hv.jobs, fun s hs => (hv.session s hs).2,
    fun j hj r hr => hv.queues r (old_queue hw j hj r hr), fun j hj => by rw [hv.issued]; exact hj,
    fun j hj hno => absurd (by rw [← hv.issued]; exact hj) hno, fun s hs => .inl ?_⟩
  · obtain ⟨h, -⟩ := hv
    refine ⟨h.range, h.used, h.packed, fun j hj => ?_, h.own, fun s hs => ?_⟩
    · obtain ⟨r, hr, hhead⟩ := h.head j hj
      exact ⟨r, by rw [h.nextQueues]; omega, hhead⟩
    · exact (h.member s hs).resolve_left (by simp)
  · exact (hv.active hw hs).resolve_left (by simp)

theorem extends_cons (hw : ChainShape w) (hc : w.numClients = usedClients w)
    (hv : ChainStock w v w.nextQueues chain id) (hne : chain ≠ []) :
    Extends w { v with issued := id :: v.issued } := by
  obtain ⟨s, rest, rfl⟩ := List.exists_cons_of_ne_nil hne
  obtain ⟨hnext, hid⟩ := hv.loop.first s rest rfl
  have hs := (hv.loop.mem_iff s).mp (List.mem_cons_self ..)
  have hslot : slotOf id = s := by
    obtain ⟨hlt, hi⟩ := hv.loop.range s hs.1
    rw [hid]
    exact (slotOf_packSession hlt hi).1
  refine ⟨hv.loop.finish hne, hv.counted hc, jobs_sem hv.jobs,
    fun _ => congrArg (·.2.2.2.2.2) hv.jobs, fun t ht => (hv.session t ht).2,
    fun j hj r hr => hv.queues r (old_queue hw j hj r hr),
    fun j hj => List.mem_cons_of_mem _ (by rw [hv.issued]; exact hj), fun j hj hno r hr => ?_,
    fun t ht => ?_⟩
  · rcases List.mem_cons.mp hj with rfl | hj
    · change (v.session (slotOf j)).queues = some r at hr
      change (v.queues r).handles = slotOf j :: (v.session (slotOf j)).nextSession
      rw [hslot] at hr ⊢
      obtain rfl : w.nextQueues = r := Option.some.inj (hs.2.symm.trans hr)
      rw [hv.handles, hnext]
    · exact absurd (by rw [← hv.issued]; exact hj) hno
  · rcases hv.active hw ht with hmem | hact
    · exact .inr (hv.owned t hmem)
    · exact .inl hact

end ChainStock

theorem Extends.fill {w v : World} {q : Nat} (bufs : List Nat)
    (hq : ∀ j ∈ w.issued, ∀ r, (w.session (slotOf j)).queues = some r → r ≠ q) (hv : Extends w v) :
    Extends w (v.onQueues q fun x => { x with outBufs := x.outBufs ++ bufs }) := by
  refine ⟨?_, hv.clients, hv.jobs, hv.jobSem, hv.session, fun j hj r hr => ?_, hv.issued,
    fun j hj hno r hr => ?_, hv.owned⟩
  · have hframe : JobFrame v (v.onQueues q fun x => { x with outBufs := x.outBufs ++ bufs }) :=
      .onQueues fun x => ⟨rfl, rfl⟩
    exact hframe.chains hv.chains
  · rw [queues_onQueues, if_neg (hq j hj r hr)]
    exact hv.queues j hj r hr
  · rw [queues_onQueues]
    by_cases hrq : r = q
    · rw [if_pos hrq, ← hrq]
      exact hv.stocked j hj hno r hr
    · rw [if_neg hrq]
      exact hv.stocked j hj hno r hr

theorem createSession_extends {count hdl : Nat} {params : EncodeParams} {o : Creation} {w : World}
    (hw : ChainShape w) (hc : w.numClients = usedClients w) (hl : LiveClient w hdl)
    (ho : o.Stocks count params) : Extends w (createSession count hdl params o w).1 := by
  obtain ⟨hlt, hu, -⟩ := hl
  unfold createSession
  dsimp only
  by_cases hbuf : maxJpegBuf < params.numSrcBufs ∨ maxJpegBuf < params.numDstBufs
  · rw [if_pos hbuf]
    exact .refl hw hc
  rw [if_neg hbuf, if_neg (by omega)]
  by_cases hh : (!o.mallocHandles) = true
  · rw [if_pos hh]
    exact .refl hw hc
  rw [if_neg hh]
  by_cases hm : (!o.mallocOutBufs) = true
  · rw [if_pos hm]
    exact hw.startStock.extends_nil hw hc
  rw [if_neg hm]
  obtain ⟨chain, hstock⟩ := createSessions_stock count params o hlt
    (if params.burstMode then count else 1) 0 [] 0 hw.startStock hu fun j hj => ho j (by omega)
  generalize createSessions count hdl w.nextQueues params o (if params.burstMode then count else 1) 0
    [] 0 { w.setQueues w.nextQueues {} with nextQueues := w.nextQueues + 1 } = r at hstock
  have hbase : Extends w (if r.2.2 = 0 then r.1 else { r.1 with issued := r.2.2 :: r.1.issued }) := by
    by_cases hne : chain = []
    · subst hne
      rw [if_pos (hstock.loop.empty rfl)]
      exact hstock.extends_nil hw hc
    · obtain ⟨s, rest, hs⟩ := List.exists_cons_of_ne_nil hne
      obtain ⟨hlt', hi⟩ := hstock.loop.range s ((hstock.loop.mem_iff s).mp (by rw [hs]; simp)).1
      rw [if_neg (by rw [(hstock.loop.first s rest hs).2]; exact (slotOf_packSession hlt' hi).2)]
      exact hstock.extends_cons hw hc hne
  split
  · exact hbase
  · exact hbase.fill _ (ChainStock.old_queue hw)

end Jpeg
