import Mathlib.Data.List.Forall2
import Wt88047.MmCamera.StreamPoll

/-! `mm_channel_start`: starting the streams of a channel one after the other, and what its error
path takes back of the ones it got to. -/

namespace Wt88047.Stream

open StreamObj

structure StartRc where
  getBuf : InitBufsRc
  regBuf : RegBufRc
  streamOn : Bool
  streamOff : Bool
  unregBuf : Bool
  putBuf : Bool

/-- A stream slot of a channel. Where the slot is a link, `obj` is the stream of the other
channel that it stands for; `cleared` tells that the slot was reset. -/
structure Member where
  own : Bool
  isMeta : Bool
  cleared : Bool
  obj : StreamObj
  rc : StartRc

structure ChannelObj where
  streams : List Member
  notifyCb : Bool
  bundleActive : Bool

def metaStreamIdx (ms : List Member) : Nat :=
  ms.zipIdx.foldl (fun k p => if p.1.own && p.1.isMeta then p.2 else k) 0

def metaFirst (ms : List Member) : List Member :=
  match ms[0]?, ms[metaStreamIdx ms]? with
  | some a, some b => if 0 < metaStreamIdx ms then (ms.set 0 b).set (metaStreamIdx ms) a else ms
  | _, _ => ms

def Member.bundle (m : Member) : Member :=
  if m.own then { m with obj := { m.obj with isBundled := true } } else m

def ChannelObj.toStart (c : ChannelObj) : List Member :=
  if c.notifyCb then (metaFirst c.streams).map Member.bundle else metaFirst c.streams

def Member.start (m : Member) : Bool × StreamObj :=
  if m.own then
    if m.obj.state = .active then (false, m.obj)
    else
      match m.obj.onGetBuf m.rc.getBuf with
      | (false, s) => (false, s)
      | (true, s) =>
        match s.onRegBuf m.rc.regBuf with
        | (false, t) => (false, t)
        | (true, t) => t.onStart m.rc.streamOn
  else (true, { m.obj with isLinked := true })

def Member.undo (m : Member) : Member :=
  if m.own then
    let s := (m.obj.onStop m.rc.streamOff).2
    let s := (s.onUnregBuf m.rc.unregBuf).2
    { m with obj := (s.onPutBuf m.rc.putBuf).2 }
  else { m with obj := { m.obj with isLinked := false }, cleared := true }

def startLoop : List Member → Bool × List Member × List Member
  | [] => (true, [], [])
  | m :: rest =>
    if m.start.1 then
      ((startLoop rest).1, { m with obj := m.start.2 } :: (startLoop rest).2.1, (startLoop rest).2.2)
    else (false, [{ m with obj := m.start.2 }], rest)

def channelStart (c : ChannelObj) : Bool × ChannelObj :=
  let active := c.notifyCb || c.bundleActive
  match startLoop c.toStart with
  | (true, done, left) => (true, { c with streams := done ++ left, bundleActive := active })
  | (false, done, left) =>
    (false, {
      streams := done.map Member.undo ++ left
      notifyCb := !active && c.notifyCb
      bundleActive := false })

/-- An owned stream of a stopped channel. The count is whatever the last session left. -/
structure Stopped (s : StreamObj) : Prop where
  state : s.state = .acquired ∨ s.state = .cfg
  kernel : s.kernel = []
  pollFd : s.pollFd = false

/-- What the caller of a failed `mm_channel_start` may rely on for a stream that was `s`. -/
structure TakenBack (s t : StreamObj) : Prop where
  state : t.state = .cfg ∨ t.state = s.state
  kernel : t.kernel = []
  count : t.queuedBufferCount = 0
  pollFd : t.pollFd = false

def regCount (flag : Nat → Bool) (qs : List QbufRc) : List Nat → Nat
  | [] => 0
  | i :: rest =>
    if flag i then
      if (qs.getD i ⟨true, true⟩).ok then regCount flag qs rest + 1 else 0
    else regCount flag qs rest

variable {s : StreamObj}

theorem qbuf_ok {b : Nat} {q : QbufRc} (hq : q.ok) (hb : b ∉ s.kernel) :
    s.qbuf b q = (true, s.enq b) := by
  simp [qbuf, hq.1, hq.2, hb]

theorem qbuf_not_ok (b : Nat) {q : QbufRc} (s : StreamObj) (hq : ¬ q.ok) :
    ∃ t, s.qbuf b q = (false, t) ∧ t.queuedBufferCount = s.queuedBufferCount := by
  by_cases hv : q.invalidateOk = true
  · have hn : q.ioctlOk ≠ true := fun ho => hq ⟨hv, ho⟩
    refine ⟨s.addQueued.dropQueued, by simp [qbuf, hv, hn], ?_⟩
    show s.queuedBufferCount + 1 - 1 = s.queuedBufferCount
    omega
  · exact ⟨s, by simp [qbuf, hv], rfl⟩

theorem regLoop_count {p : Bool} (qs : List QbufRc) {l : List Nat} (hl : l.Nodup)
    (h : Registering p s) (hnew : ∀ i ∈ l, i ∉ s.kernel) :
    (regLoop qs l s).2.queuedBufferCount = s.queuedBufferCount + regCount s.flag qs l := by
  induction l generalizing s with
  | nil => simp [regLoop, regCount]
  | cons i rest ih =>
    obtain ⟨hi, hrest⟩ := List.nodup_cons.mp hl
    have hik := hnew i (List.mem_cons_self ..)
    rw [regLoop_cons]
    by_cases hf : s.flag i = true
    · rw [if_pos hf]
      by_cases hok : (qs.getD i ⟨true, true⟩).ok
      · have hp := h.push hik
        have hreg : Registering p ((s.enq i).setStatus i ⟨0, true, true⟩) :=
          ⟨hp.once, hp.count, hp.polled, hp.entry⟩
        have hflag : ((s.enq i).setStatus i ⟨0, true, true⟩).flag = s.flag := setStatus_flag hf
        have hfresh : ∀ j ∈ rest, j ∉ ((s.enq i).setStatus i ⟨0, true, true⟩).kernel := by
          intro j hj hk
          obtain rfl | hk := List.mem_cons.mp hk
          · exact hi hj
          · exact hnew j (List.mem_cons_of_mem i hj) hk
        have hrec := ih hrest hreg hfresh
        have hcount : ((s.enq i).setStatus i ⟨0, true, true⟩).queuedBufferCount =
          s.queuedBufferCount + 1 := rfl
        rw [qbuf_ok hok hik]
        simp only [regCount, hf, hok, if_true]
        rw [hrec, hflag, hcount]
        omega
      · obtain ⟨t, ht, hc⟩ := qbuf_not_ok i s hok
        rw [ht]
        simp only [regCount, hf, hok, if_true, if_false]
        rw [hc]
        simp
    · have hn : s.flag i = false := by simpa using hf
      have hreg : Registering p (s.keepUpper i) := ⟨h.once, h.count, h.polled, h.entry⟩
      have hflag : (s.keepUpper i).flag = s.flag := setStatus_flag hn
      have hfresh : ∀ j ∈ rest, j ∉ (s.keepUpper i).kernel :=
        fun j hj => hnew j (List.mem_cons_of_mem i hj)
      have hrec := ih hrest hreg hfresh
      rw [if_neg hf]
      simp only [regCount, hf]
      rw [hrec, hflag]
      rfl

def Member.reachesLoop (m : Member) : Prop :=
  m.obj.state = .cfg ∧ m.rc.getBuf.getBufsOk = true ∧ m.rc.getBuf.mallocOk = true ∧
    m.rc.getBuf.bufNum ≤ maxNumFrames ∧ m.rc.regBuf.reqbufsOk = true

instance (m : Member) : Decidable m.reachesLoop := inferInstanceAs (Decidable (_ ∧ _))

/-- What the call makes `queued_buffer_count`: the buffers it queues, or the old value where it
does not come to queueing any. -/
def Member.countAfter (m : Member) : Int :=
  if m.reachesLoop then
    regCount (fun i => m.rc.getBuf.regFlags.getD i false) m.rc.regBuf.qbufs
      (List.range m.rc.getBuf.bufNum)
  else m.obj.queuedBufferCount

def CountTrue (s : StreamObj) : Prop :=
  s.queuedBufferCount = 0 → s.kernel = [] ∧ s.pollFd = false

theorem Registering.countTrue (h : Registering false s) : CountTrue s := by
  intro h0
  have hc := h.count
  refine ⟨List.eq_nil_of_length_eq_zero (by omega), ?_⟩
  by_contra hp
  obtain hpos | hf := h.entry (by simpa using hp)
  · omega
  · simp at hf

theorem regBuf_count {r : RegBufRc} (hp : s.pollFd = false)
    (hr : s.bufNum ≤ maxNumFrames ∧ r.reqbufsOk = true) :
    Registering false (s.regBuf r).2 ∧ (s.regBuf r).2.queuedBufferCount =
      (regCount s.flag r.qbufs (List.range s.bufNum) : Int) := by
  have h0 : Registering false { { s with kernel := [] } with queuedBufferCount := 0 } :=
    ⟨List.nodup_nil, rfl, fun hc => absurd hc (by simp), fun hc => absurd (hp.symm.trans hc) (by simp)⟩
  have hspec := regLoop_spec r.qbufs (List.range s.bufNum) h0 rfl
  have hcount := regLoop_count r.qbufs (l := List.range s.bufNum) List.nodup_range h0
    (fun i _ => List.not_mem_nil)
  simp only [regBuf, requestBuf, hr, if_true, and_self]
  refine ⟨hspec.1, hcount.trans ?_⟩
  exact Int.zero_add _

theorem ignore_of_acquired (h : s.state = .acquired) : s.ignore = (true, s) := by
  simp [ignore, h]

theorem onGetBuf_cfg (hs : s.state = .cfg) (r : InitBufsRc) :
    SameQueue s (s.onGetBuf r).2 ∧
    (((s.onGetBuf r).1 = false ∧ ¬ (r.getBufsOk = true ∧ r.mallocOk = true) ∧
      (s.onGetBuf r).2.state = .cfg) ∨
    ((s.onGetBuf r).1 = true ∧ (r.getBufsOk = true ∧ r.mallocOk = true) ∧
      (s.onGetBuf r).2.state = .buffed ∧ (s.onGetBuf r).2.bufNum = r.bufNum ∧
      (s.onGetBuf r).2.flag = fun i => r.regFlags.getD i false)) := by
  have hsame := initBufs_same r s
  have hstate := (initBufs_state r s).trans hs
  simp only [onGetBuf, hs, if_true]
  obtain ⟨g, n, f, m⟩ := r
  cases g with
  | false => exact ⟨⟨hsame.1, hsame.2, hsame.3, hsame.4⟩, Or.inl ⟨rfl, by simp, hstate⟩⟩
  | true =>
    cases m with
    | false => exact ⟨⟨hsame.1, hsame.2, hsame.3, hsame.4⟩, Or.inl ⟨rfl, by simp, hstate⟩⟩
    | true =>
      exact ⟨⟨hsame.1, hsame.2, hsame.3, hsame.4⟩, Or.inr ⟨rfl, ⟨rfl, rfl⟩, rfl, rfl, rfl⟩⟩

theorem regAndStart_spec (hs : s.state = .buffed) (hk : s.kernel = []) (hp : s.pollFd = false)
    (r : RegBufRc) (on : Bool) {rc : Bool} {t : StreamObj} (ht : (match s.onRegBuf r with
      | (false, u) => (false, u)
      | (true, u) => u.onStart on) = (rc, t)) :
    (t.state = .buffed ∨ t.state = .reg ∨ t.state = .active) ∧
    t.queuedBufferCount = (if s.bufNum ≤ maxNumFrames ∧ r.reqbufsOk = true then
      (regCount s.flag r.qbufs (List.range s.bufNum) : Int) else s.queuedBufferCount) ∧
    CountTrue t := by
  by_cases hreq : s.bufNum ≤ maxNumFrames ∧ r.reqbufsOk = true
  · obtain ⟨hreg, hcount⟩ := regBuf_count hp hreq
    have hstate := (regBuf_keeps r s).2
    rw [if_pos hreq]
    simp only [onRegBuf, hs, if_true] at ht
    cases hr : s.regBuf r with
    | mk b u =>
      rw [hr] at hreg hcount hstate ht
      have htrue := hreg.countTrue
      cases b with
      | false =>
        obtain ⟨-, rfl⟩ := Prod.mk.inj ht
        exact ⟨Or.inl (hstate.trans hs), hcount, htrue⟩
      | true =>
        simp only [onStart, if_true] at ht
        obtain ⟨-, rfl⟩ := Prod.mk.inj ht
        cases on with
        | true => exact ⟨Or.inr (Or.inr rfl), hcount, htrue⟩
        | false => exact ⟨Or.inr (Or.inl rfl), hcount, fun h0 => ⟨(htrue h0).1, rfl⟩⟩
  · rw [if_neg hreq]
    have hr : s.regBuf r = (false, s) := by simp [regBuf, requestBuf, hreq]
    simp only [onRegBuf, hs, if_true, hr] at ht
    obtain ⟨-, rfl⟩ := Prod.mk.inj ht
    exact ⟨Or.inl rfl, rfl, fun _ => ⟨hk, hp⟩⟩

theorem start_spec {m : Member} (hown : m.own = true) (h : Stopped m.obj) :
    (m.start.2.state = m.obj.state ∨ m.start.2.state = .cfg ∨ m.start.2.state = .buffed ∨
      m.start.2.state = .reg ∨ m.start.2.state = .active) ∧
    m.start.2.queuedBufferCount = m.countAfter ∧ CountTrue m.start.2 := by
  obtain ⟨hs, hk, hp⟩ := h
  have hna : m.obj.state ≠ .active := by
    obtain hs | hs := hs <;> simp [hs]
  simp only [Member.start, hown, hna, if_true, if_false]
  obtain hs | hs := hs
  · have hg : m.obj.onGetBuf m.rc.getBuf = (true, m.obj) := by
      rw [← ignore_of_acquired hs]
      simp [onGetBuf, hs]
    have hr : m.obj.onRegBuf m.rc.regBuf = (true, m.obj) := by
      rw [← ignore_of_acquired hs]
      simp [onRegBuf, hs]
    have ho : m.obj.onStart m.rc.streamOn = (true, m.obj) := by
      rw [← ignore_of_acquired hs]
      simp [onStart, hs]
    have hl : ¬ m.reachesLoop := fun hl => absurd (hs.symm.trans hl.1) (by simp)
    simp only [hg, hr, ho, Member.countAfter, if_neg hl]
    exact ⟨Or.inl trivial, trivial, fun _ => ⟨hk, hp⟩⟩
  · obtain ⟨hsame, hcase⟩ := onGetBuf_cfg hs m.rc.getBuf
    cases hg : m.obj.onGetBuf m.rc.getBuf with
    | mk rc t =>
      rw [hg] at hsame hcase
      obtain ⟨rfl, hno, hst⟩ | ⟨rfl, hyes, hst, hn, hf⟩ := hcase
      · have hl : ¬ m.reachesLoop := fun hl => hno ⟨hl.2.1, hl.2.2.1⟩
        simp only [Member.countAfter, if_neg hl]
        exact ⟨Or.inr (Or.inl hst), hsame.count,
          fun _ => ⟨hsame.kernel.trans hk, hsame.pollFd.trans hp⟩⟩
      · obtain ⟨h1, h2, h3⟩ := regAndStart_spec hst (hsame.kernel.trans hk)
          (hsame.pollFd.trans hp) m.rc.regBuf m.rc.streamOn rfl
        refine ⟨Or.inr (Or.inr h1), h2.trans ?_, h3⟩
        rw [hn, hf, hsame.count, Member.countAfter]
        have hl : m.reachesLoop ↔
            m.rc.getBuf.bufNum ≤ maxNumFrames ∧ m.rc.regBuf.reqbufsOk = true := by
          simp [Member.reachesLoop, hs, hyes.1, hyes.2]
        simp only [hl]

/-- What the undo calls may change of the queue: they never touch the count. -/
structure Drained (s t : StreamObj) : Prop where
  count : t.queuedBufferCount = s.queuedBufferCount
  kernel : t.kernel = s.kernel ∨ t.kernel = []
  pollFd : t.pollFd = s.pollFd ∨ t.pollFd = false

theorem Drained.refl (s : StreamObj) : Drained s s := ⟨rfl, Or.inl rfl, Or.inl rfl⟩

theorem Drained.trans {t u : StreamObj} (h : Drained s t) (k : Drained t u) : Drained s u := by
  refine ⟨k.count.trans h.count, ?_, ?_⟩
  · obtain hk | hk := k.kernel
    · rw [hk]
      exact h.kernel
    · exact Or.inr hk
  · obtain hp | hp := k.pollFd
    · rw [hp]
      exact h.pollFd
    · exact Or.inr hp

theorem Drained.countTrue {t : StreamObj} (h : Drained s t) (hs : CountTrue s) : CountTrue t := by
  intro h0
  obtain ⟨hk, hp⟩ := hs (h.count.symm.trans h0)
  exact ⟨h.kernel.elim (fun he => he.trans hk) id, h.pollFd.elim (fun he => he.trans hp) id⟩

theorem onStop_spec (ok : Bool) (s : StreamObj) : Drained s (s.onStop ok).2 ∧
    (s.onStop ok).2.state = if s.state = .active then .reg else s.state := by
  by_cases hs : s.state = .active
  · simp only [onStop, hs, if_true]
    cases ok with
    | true => exact ⟨⟨rfl, Or.inr rfl, Or.inr rfl⟩, rfl⟩
    | false => exact ⟨⟨rfl, Or.inl rfl, Or.inr rfl⟩, rfl⟩
  · simp only [onStop, hs, if_false, ignore]
    exact ⟨Drained.refl s, trivial⟩

theorem onUnregBuf_spec (ok : Bool) (s : StreamObj) : Drained s (s.onUnregBuf ok).2 ∧
    (s.onUnregBuf ok).2.state = if s.state = .reg then .buffed else s.state := by
  by_cases hs : s.state = .reg
  · simp only [onUnregBuf, hs, if_true]
    cases ok with
    | true => exact ⟨⟨rfl, Or.inr rfl, Or.inl rfl⟩, trivial⟩
    | false => exact ⟨⟨rfl, Or.inl rfl, Or.inl rfl⟩, trivial⟩
  · simp only [onUnregBuf, hs, if_false, ignore]
    exact ⟨Drained.refl s, trivial⟩

theorem onPutBuf_spec (ok : Bool) (s : StreamObj) : Drained s (s.onPutBuf ok).2 ∧
    (s.onPutBuf ok).2.state = if s.state = .buffed then .cfg else s.state := by
  by_cases hs : s.state = .buffed
  · obtain ⟨h1, h2, h3, -⟩ := deinitBufs_same ok s
    simp only [onPutBuf, hs, if_true]
    exact ⟨⟨h2, Or.inl h1, Or.inl h3⟩, trivial⟩
  · simp only [onPutBuf, hs, if_false, ignore]
    exact ⟨Drained.refl s, trivial⟩

theorem undo_spec {m : Member} (hown : m.own = true) : Drained m.obj m.undo.obj ∧
    m.undo.obj.state =
      if m.obj.state = .active ∨ m.obj.state = .reg ∨ m.obj.state = .buffed then .cfg
      else m.obj.state := by
  obtain ⟨d1, s1⟩ := onStop_spec m.rc.streamOff m.obj
  obtain ⟨d2, s2⟩ := onUnregBuf_spec m.rc.unregBuf (m.obj.onStop m.rc.streamOff).2
  obtain ⟨d3, s3⟩ := onPutBuf_spec m.rc.putBuf
    ((m.obj.onStop m.rc.streamOff).2.onUnregBuf m.rc.unregBuf).2
  simp only [Member.undo, hown, if_true]
  refine ⟨(d1.trans d2).trans d3, ?_⟩
  rw [s3, s2, s1]
  cases m.obj.state <;> simp

theorem undo_start_spec {m : Member} (hown : m.own = true) (h : Stopped m.obj) :
    TakenBack m.obj { m with obj := m.start.2 }.undo.obj ↔ m.countAfter = 0 := by
  obtain ⟨hstate, hcount, htrue⟩ := start_spec hown h
  obtain ⟨hd, hs⟩ := @undo_spec { m with obj := m.start.2 } hown
  have hafter := hd.count.trans hcount
  constructor
  · intro ht
    exact hafter.symm.trans ht.count
  · intro h0
    have hz := hafter.trans h0
    obtain ⟨hk, hp⟩ := hd.countTrue htrue hz
    refine ⟨?_, hk, hz, hp⟩
    rw [hs]
    show (if m.start.2.state = .active ∨ m.start.2.state = .reg ∨ m.start.2.state = .buffed then
      StreamState.cfg else m.start.2.state) = .cfg ∨ _ = m.obj.state
    obtain he | he | he | he | he := hstate
    · rw [he]
      split
      · exact Or.inl rfl
      · exact Or.inr rfl
    all_goals simp [he]

def tried : List Member → List Member
  | [] => []
  | m :: rest => if m.start.1 then m :: tried rest else [m]

def untried : List Member → List Member
  | [] => []
  | m :: rest => if m.start.1 then untried rest else rest

theorem tried_append_untried (ms : List Member) : tried ms ++ untried ms = ms := by
  induction ms with
  | nil => rfl
  | cons m rest ih =>
    by_cases hm : m.start.1 = true
    · simp only [tried, untried, hm, if_true, List.cons_append, ih]
    · simp [tried, untried, hm]

theorem startLoop_spec (ms : List Member) :
    (startLoop ms).2 = ((tried ms).map fun m => { m with obj := m.start.2 }, untried ms) := by
  induction ms with
  | nil => rfl
  | cons m rest ih =>
    by_cases hm : m.start.1 = true
    · simp only [startLoop, tried, untried, hm, if_true, ih, List.map_cons]
    · simp [startLoop, tried, untried, hm]

theorem mem_metaFirst {ms : List Member} {m : Member} (h : m ∈ metaFirst ms) : m ∈ ms := by
  simp only [metaFirst] at h
  split at h
  · rename_i a b ha hb
    split at h
    · obtain h | rfl := List.mem_or_eq_of_mem_set h
      · obtain h | rfl := List.mem_or_eq_of_mem_set h
        · exact h
        · exact List.mem_of_getElem? hb
      · exact List.mem_of_getElem? ha
    · exact h
  · exact h

theorem toStart_stopped {c : ChannelObj} (h : ∀ m ∈ c.streams, m.own = true → Stopped m.obj) :
    ∀ m ∈ c.toStart, m.own = true → Stopped m.obj := by
  intro m hm hown
  simp only [ChannelObj.toStart] at hm
  split at hm
  · obtain ⟨n, hn, rfl⟩ := List.mem_map.mp hm
    simp only [Member.bundle] at hown ⊢
    split at hown
    · rename_i hno
      obtain ⟨h1, h2, h3⟩ := h n (mem_metaFirst hn) hno
      rw [if_pos hno]
      exact ⟨h1, h2, h3⟩
    · rename_i hno
      exact absurd hown hno
  · exact h m (mem_metaFirst hm) hown

theorem forall₂_undone {R : Member → Member → Prop} {f : Member → Member}
    (pre post : List Member) : List.Forall₂ R (pre ++ post) (pre.map f ++ post) ↔
      (∀ m ∈ pre, R m (f m)) ∧ ∀ m ∈ post, R m m := by
  induction pre with
  | nil => simp [List.forall₂_same]
  | cons m pre ih => simp [ih, and_assoc]

theorem takenBack_untried (h : Stopped s) : TakenBack s s ↔ s.queuedBufferCount = 0 :=
  ⟨fun ht => ht.count, fun h0 => ⟨Or.inr rfl, h.kernel, h0, h.pollFd⟩⟩

/-- A failed `mm_channel_start` has taken everything back exactly when no stream it got to had a
buffer queued and every other stream came without a stale count. -/
theorem start_error_takes_back {c c' : ChannelObj}
    (hstop : ∀ m ∈ c.streams, m.own = true → Stopped m.obj)
    (h : channelStart c = (false, c')) :
    List.Forall₂ (fun m m' => m.own = true → TakenBack m.obj m'.obj) c.toStart c'.streams ↔
      (∀ m ∈ tried c.toStart, m.own = true → m.countAfter = 0) ∧
      ∀ m ∈ untried c.toStart, m.own = true → m.obj.queuedBufferCount = 0 := by
  have hms := toStart_stopped hstop
  have happ := tried_append_untried c.toStart
  have hloop := startLoop_spec c.toStart
  have hstreams : c'.streams = (tried c.toStart).map
      (fun m => { m with obj := m.start.2 }.undo) ++ untried c.toStart := by
    simp only [channelStart] at h
    cases hl : startLoop c.toStart with
    | mk rc p =>
      obtain ⟨done, left⟩ := p
      rw [hl] at h hloop
      obtain ⟨rfl, rfl⟩ := Prod.mk.inj hloop
      cases rc with
      | true => simp at h
      | false =>
        obtain rfl := (Prod.mk.inj h).2
        simp only [List.map_map]
        rfl
  rw [hstreams]
  have hiff := @forall₂_undone (fun m m' => m.own = true → TakenBack m.obj m'.obj)
    (fun m => { m with obj := m.start.2 }.undo) (tried c.toStart) (untried c.toStart)
  rw [happ] at hiff
  rw [hiff]
  have hsub : ∀ m, m ∈ tried c.toStart ∨ m ∈ untried c.toStart → m ∈ c.toStart := by
    intro m hm
    rw [← happ]
    exact List.mem_append.mpr hm
  constructor
  · rintro ⟨hdone, hleft⟩
    refine ⟨fun m hm hown => ?_, fun m hm hown => ?_⟩
    · exact (undo_start_spec hown (hms m (hsub m (Or.inl hm)) hown)).mp (hdone m hm hown)
    · exact (takenBack_untried (hms m (hsub m (Or.inr hm)) hown)).mp (hleft m hm hown)
  · rintro ⟨hdone, hleft⟩
    refine ⟨fun m hm hown => ?_, fun m hm hown => ?_⟩
    · exact (undo_start_spec hown (hms m (hsub m (Or.inl hm)) hown)).mpr (hdone m hm hown)
    · exact (takenBack_untried (hms m (hsub m (Or.inr hm)) hown)).mpr (hleft m hm hown)

def configured (isMeta getBufs : Bool) (flags : List Bool) (streamOn : Bool) : Member where
  own := true
  isMeta := isMeta
  cleared := false
  obj := { fresh false with state := .cfg }
  rc :=
    { getBuf := ⟨getBufs, flags.length, flags, true⟩
      regBuf := ⟨true, []⟩
      streamOn := streamOn
      streamOff := true
      unregBuf := true
      putBuf := true }

theorem configured_stopped (isMeta getBufs : Bool) (flags : List Bool) (streamOn : Bool) :
    Stopped (configured isMeta getBufs flags streamOn).obj := ⟨Or.inr rfl, rfl, rfl⟩

def failsInGetBuf : ChannelObj :=
  ⟨[configured false false [true] true, configured true true [false] true], true, false⟩

theorem start_error_takes_back_get_buf :
    List.Forall₂ (fun m m' => m.own = true → TakenBack m.obj m'.obj) failsInGetBuf.toStart
      (channelStart failsInGetBuf).2.streams := by
  have hstop : ∀ m ∈ failsInGetBuf.streams, m.own = true → Stopped m.obj := by
    intro m hm _
    obtain rfl | hm := List.mem_cons.mp hm
    · exact configured_stopped ..
    · obtain rfl := List.mem_singleton.mp hm
      exact configured_stopped ..
  exact (@start_error_takes_back failsInGetBuf _ hstop rfl).mpr ⟨by decide, by decide⟩

def failsInStreamOn : ChannelObj := ⟨[configured false true [true] false], true, false⟩

theorem failed_streamon_keeps_count : ¬ ∀ c c' : ChannelObj,
    (∀ m ∈ c.streams, m.own = true → Stopped m.obj) → channelStart c = (false, c') →
      List.Forall₂ (fun m m' => m.own = true → TakenBack m.obj m'.obj) c.toStart c'.streams := by
  intro h
  have hstop : ∀ m ∈ failsInStreamOn.streams, m.own = true → Stopped m.obj := by
    intro m hm _
    obtain rfl := List.mem_singleton.mp hm
    exact configured_stopped ..
  have hback := h failsInStreamOn _ hstop rfl
  cases hback with
  | cons hm _ => exact absurd (hm rfl).count (by decide)

end Wt88047.Stream
