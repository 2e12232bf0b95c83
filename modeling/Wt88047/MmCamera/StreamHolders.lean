import Mathlib.Data.List.Count
import Wt88047.MmCamera.StreamQueue

/-! Who holds a buffer: `buf_refcnt` against the references that are really out, and the places
a buffer can be in while its stream is running. -/

namespace Wt88047.Stream

open StreamObj

def PollPc.refs (isBundled : Bool) : PollPc → Nat → Nat
  | .counted c h, b => if c = b then isBundled.toNat + h.toNat else 0
  | .bundled c h, b => if c = b then h.toNat else 0
  | .linked c h, b => if c = b then h.toNat else 0
  | _, _ => 0

def PollPc.inHand (isBundled : Bool) : PollPc → Nat → Prop
  | .dequeued c, b => c = b
  | .received c, b => c = b
  | .checked c _, b => c = b
  | .counted c h, b => c = b ∧ isBundled = false ∧ h = false
  | .bundled c h, b => c = b ∧ isBundled = false ∧ h = false
  | _, _ => False

def PollPc.buf : PollPc → Option Nat
  | .idle => none
  | .dequeued b | .received b => some b
  | .checked b _ | .counted b _ | .bundled b _ | .linked b _ => some b

def StreamObj.appRefs (s : StreamObj) (b : Nat) : Nat :=
  match s.app with
  | some (c, _) => if c = b then 1 else 0
  | none => 0

def outRefs (l : List (Holder × Nat)) (b : Nat) : Nat := l.countP fun p => p.2 = b

/-- The outstanding holders of `b`: the parties it was handed to, and the app-data node,
reserved, queued or being dispatched. -/
def StreamObj.holders (s : StreamObj) (b : Nat) : Nat :=
  outRefs s.out b + s.cmdQueue.count b + s.appRefs b + s.poll.refs s.isBundled b

def StreamObj.inHand (s : StreamObj) (b : Nat) : Prop := s.poll.inHand s.isBundled b

theorem outRefs_cons (h : Holder) (b c : Nat) (l : List (Holder × Nat)) :
    outRefs ((h, b) :: l) c = outRefs l c + if b = c then 1 else 0 := by
  by_cases hc : b = c <;> simp [outRefs, hc]

variable {b : Nat}

theorem outRefs_erase {h : Holder} {l : List (Holder × Nat)} (hm : (h, b) ∈ l) (c : Nat) :
    outRefs l c = outRefs (l.erase (h, b)) c + if b = c then 1 else 0 := by
  rw [← outRefs_cons h b c]
  exact (List.perm_cons_erase hm).countP_eq _

def loose (o : Option Nat) (b : Nat) : Nat := if o = some b then 1 else 0

structure Books (o : Option Nat) (s : StreamObj) : Prop where
  refs : ∀ b, s.refcnt b = s.holders b + loose o b
  home : ∀ b < s.bufNum, s.refcnt b = 0 → ¬ s.inHand b → b ∈ s.kernel
  away : ∀ b ∈ s.kernel, b < s.bufNum ∧ s.refcnt b = 0 ∧ ¬ s.inHand b
  bare : ∀ b, s.inHand b → s.refcnt b = 0
  range : ∀ b, s.poll.buf = some b → b < s.bufNum
  bound : ∀ b, s.refcnt b ≠ 0 → b < s.bufNum

variable {s t : StreamObj}

theorem Books.congr {o p : Option Nat} (h : Books o s) (hr : ∀ b, t.refcnt b = s.refcnt b)
    (hk : t.kernel = s.kernel) (hn : t.bufNum = s.bufNum)
    (hh : ∀ b, t.holders b + loose p b = s.holders b + loose o b)
    (hi : ∀ b, t.inHand b ↔ s.inHand b) (hb : ∀ b, t.poll.buf = some b → s.poll.buf = some b) :
    Books p t where
  refs := fun b => by rw [hr, hh]; exact h.refs b
  home := fun b hlt h0 hni => by
    rw [hk]
    rw [hn] at hlt
    rw [hr] at h0
    exact h.home b hlt h0 (fun hin => hni ((hi b).mpr hin))
  away := fun b hm => by
    rw [hk] at hm
    rw [hn, hr, hi]
    exact h.away b hm
  bare := fun b hin => by
    rw [hr]
    exact h.bare b ((hi b).mp hin)
  range := fun b hp => by
    rw [hn]
    exact h.range b (hb b hp)
  bound := fun b hne => by
    rw [hn]
    rw [hr] at hne
    exact h.bound b hne

theorem requeue_refcnt (b c : Nat) (s : StreamObj) :
    (s.requeue b).refcnt c = if c = b then 0 else s.refcnt c := by
  show (((s.setRefcnt b 0).enq b).setInKernel b true).refcnt c = _
  simp

theorem requeue_holders (b : Nat) (s : StreamObj) : (s.requeue b).holders = s.holders := by
  rw [requeue_eq]
  rfl

theorem requeue_inHand (b : Nat) (s : StreamObj) : (s.requeue b).inHand = s.inHand := by
  rw [requeue_eq]
  rfl

theorem requeue_kernel (b : Nat) (s : StreamObj) : (s.requeue b).kernel = b :: s.kernel := by
  rw [requeue_eq]

theorem Books.held (h : Books (some b) s) : s.refcnt b = s.holders b + 1 := by
  rw [h.refs b, loose, if_pos rfl]

theorem Books.settle (h : Books (some b) s)
    (hr : ∀ c, t.refcnt c = if c = b then s.refcnt b - 1 else s.refcnt c)
    (hh : t.holders = s.holders) (hi : t.inHand = s.inHand) (hn : t.bufNum = s.bufNum)
    (hp : t.poll = s.poll) (hk : ∀ c, c ∈ t.kernel ↔ c ∈ s.kernel ∨ c = b ∧ s.refcnt b = 1) :
    Books none t := by
  have hb := h.held
  have hne : s.refcnt b ≠ 0 := by omega
  have hni : ¬ s.inHand b := fun hin => hne (h.bare b hin)
  refine ⟨fun c => ?_, fun c hlt h0 hin => ?_, fun c hc => ?_, fun c hin => ?_, fun c hc => ?_, fun c hc => ?_⟩
  · rw [hr, hh]
    by_cases hcb : c = b
    · rw [if_pos hcb, hcb, hb]
      rfl
    · have hother := h.refs c
      rw [loose, if_neg fun he => hcb (Option.some.inj he).symm] at hother
      rw [if_neg hcb, hother]
      rfl
  · rw [hn] at hlt
    rw [hi] at hin
    rw [hr] at h0
    apply (hk c).mpr
    by_cases hcb : c = b
    · rw [if_pos hcb] at h0
      exact .inr ⟨hcb, by omega⟩
    · rw [if_neg hcb] at h0
      exact .inl (h.home c hlt h0 hin)
  · rw [hr, hi, hn]
    obtain hc | ⟨rfl, h1⟩ := (hk c).mp hc
    · have haway := h.away c hc
      have hcb : c ≠ b := fun he => hne (he ▸ haway.2.1)
      rw [if_neg hcb]
      exact haway
    · rw [if_pos rfl, h1]
      exact ⟨h.bound c hne, rfl, hni⟩
  · rw [hi] at hin
    have hcb : c ≠ b := fun he => hni (he ▸ hin)
    rw [hr, if_neg hcb]
    exact h.bare c hin
  · rw [hp] at hc
    rw [hn]
    exact h.range c hc
  · rw [hr] at hc
    rw [hn]
    by_cases hcb : c = b
    · exact hcb ▸ h.bound b hne
    · rw [if_neg hcb] at hc
      exact h.bound c hc

variable {q : QbufRc}

theorem bufDone_books (h : Books (some b) s) (hq : s.refcnt b = 1 → q.ok) :
    Books none (s.bufDone b q).2 := by
  have hne : s.refcnt b ≠ 0 := by
    rw [h.held]
    exact Nat.succ_ne_zero _
  have hnk : b ∉ s.kernel := fun hk => hne (h.away b hk).2.1
  obtain ⟨h0, -⟩ | ⟨h2, ht⟩ | ⟨h1, -, -, ht⟩ | ⟨h1, hfail, -⟩ := bufDone_cases b q s
  · exact absurd h0 hne
  · rw [ht]
    exact h.settle (fun c => setRefcnt_refcnt ..) rfl rfl rfl rfl fun c =>
      (or_iff_left fun hc => absurd hc.2 (by omega)).symm
  · rw [ht]
    refine h.settle (fun c => ?_) (requeue_holders b s) (requeue_inHand b s) ?_ ?_ fun c => ?_
    · rw [requeue_refcnt, h1]
    · rw [requeue_eq]
    · rw [requeue_eq]
    · rw [requeue_kernel, List.mem_cons, and_iff_left h1, or_comm]
  · exact absurd ⟨hq h1, hnk⟩ hfail

def OpsSucceed (s : StreamObj) : Event → Prop
  | .countFrame ok => ok = true
  | .passOn ok q => lastRelease s (.passOn ok q) ≠ none → q.ok
  | .doneNode q => lastRelease s (.doneNode q) ≠ none → q.ok
  | .release h b q => lastRelease s (.release h b q) ≠ none → q.ok
  | _ => True

def Served (s : StreamObj) : Event → Prop
  | .notifyLinked _ =>
    match s.poll with
    | .bundled _ h => s.isBundled = true ∨ h = true ∨ s.isLinked = true
    | _ => True
  | _ => True

/-- Every counted reference reaches a holder, and `mm_stream_handle_rcvd_buf` drops or adds none
behind the holders' backs. -/
def HandedOver (s : StreamObj) : Event → Prop
  | .notifyBundle ok => s.isBundled = true → ok = true
  | .notifyLinked ok => s.isLinked = true → ok = true ∧ ∀ b ∈ s.poll.buf, b ∉ s.kernel
  | .passOn ok _ =>
    match s.poll with
    | .linked b h =>
      if s.skips then h = true ∨ s.refcnt b = 0 else h = true → s.cmdActive = true ∧ ok = true
    | _ => True
  | _ => True

theorem dqbuf_books {o : Option Nat} (h : Books none s) (hk : s.kernel.Nodup)
    (ht : s.dqbuf o = some t) : Books none t := by
  obtain ⟨hpc, -, rfl | ⟨b, hb, rfl⟩⟩ := dqbuf_some ht
  · exact h
  · have hin : ∀ c, ¬ s.inHand c := by
      intro c
      simp [inHand, hpc, PollPc.inHand]
    refine ⟨fun c => ?_, fun c hlt h0 hi => ?_, fun c hc => ?_, fun c hi => ?_, fun c hc => ?_,
      h.bound⟩
    · have hr := h.refs c
      simp only [holders, hpc, PollPc.refs] at hr ⊢
      exact hr
    · have hcb : c ≠ b := fun he => hi he.symm
      exact (List.mem_erase_of_ne hcb).mpr (h.home c hlt h0 (hin c))
    · have hm := List.mem_of_mem_erase hc
      refine ⟨(h.away c hm).1, (h.away c hm).2.1, ?_⟩
      rintro rfl
      exact hk.not_mem_erase hc
    · obtain rfl : b = c := hi
      exact (h.away b hb).2.1
    · obtain rfl : b = c := Option.some.inj hc
      exact (h.away b hb).1

theorem countFrame_books (h : Books none s) (ht : s.countFrame true = some t) : Books none t := by
  obtain ⟨b, hpc, rfl⟩ := countFrame_some ht
  refine h.congr (fun _ => rfl) rfl rfl (fun c => ?_) (fun c => ?_) (fun c hc => ?_)
  · simp only [holders, hpc, PollPc.refs]
    rfl
  · simp only [inHand, hpc, PollPc.inHand]
    rfl
  · rw [hpc]
    exact hc

theorem checkCb_books (h : Books none s) (ht : s.checkCb = some t) : Books none t := by
  obtain ⟨b, hpc, -, rfl⟩ := checkCb_some ht
  refine h.congr (fun _ => rfl) rfl rfl (fun c => ?_) (fun c => ?_) (fun c hc => ?_)
  · simp only [holders, hpc, PollPc.refs]
    rfl
  · simp only [inHand, hpc, PollPc.inHand]
  · rw [hpc]
    exact hc

theorem addRefs_books (h : Books none s) (ht : s.addRefs = some t) : Books none t := by
  obtain ⟨b, c, hpc, rfl⟩ := addRefs_some ht
  have hin : s.inHand b := by simp [inHand, hpc, PollPc.inHand]
  have h0 := h.bare b hin
  have hlt : b < s.bufNum := h.range b (by rw [hpc]; rfl)
  have hr : ∀ d, ((s.setInKernel b false).setRefcnt b
      (s.refcnt b + s.isBundled.toNat + c.toNat)).refcnt d =
        if d = b then s.isBundled.toNat + c.toNat else s.refcnt d := by
    intro d
    rw [setRefcnt_refcnt, setInKernel_refcnt, h0, Nat.zero_add]
  have hother : ∀ d, d ≠ b → ¬ s.inHand d := by
    intro d hd
    simp [inHand, hpc, PollPc.inHand, Ne.symm hd]
  refine ⟨fun d => ?_, fun d hd hz hi => ?_, fun d hd => ?_, fun d hi => ?_, fun d hd => ?_,
    fun d hd => ?_⟩
  · have hs := h.refs d
    simp only [holders, hpc, PollPc.refs] at hs
    show ((s.setInKernel b false).setRefcnt b _).refcnt d =
      outRefs s.out d + s.cmdQueue.count d + s.appRefs d +
        (if b = d then s.isBundled.toNat + c.toNat else 0) + loose none d
    rw [hr]
    by_cases hdb : d = b
    · subst hdb
      simp only [if_true]
      omega
    · rw [if_neg hdb, if_neg (Ne.symm hdb)]
      exact hs
  · have hz' : (if d = b then s.isBundled.toNat + c.toNat else s.refcnt d) = 0 := (hr d) ▸ hz
    by_cases hdb : d = b
    · rw [if_pos hdb] at hz'
      have hsb : s.isBundled = false := Bool.toNat_eq_zero.mp (by omega)
      have hsc : c = false := Bool.toNat_eq_zero.mp (by omega)
      exact absurd ⟨hdb.symm, hsb, hsc⟩ hi
    · rw [if_neg hdb] at hz'
      exact h.home d hd hz' (hother d hdb)
  · obtain ⟨hn, hz, hni⟩ := h.away d hd
    have hdb : d ≠ b := fun he => hni (he ▸ hin)
    refine ⟨hn, ?_, fun hi => hdb hi.1.symm⟩
    show ((s.setInKernel b false).setRefcnt b _).refcnt d = 0
    rw [hr, if_neg hdb]
    exact hz
  · obtain ⟨rfl, hb, hc⟩ := hi
    show ((s.setInKernel b false).setRefcnt b _).refcnt b = 0
    rw [hr, if_pos rfl, hc]
    have hsb : s.isBundled = false := hb
    rw [hsb]
    rfl
  · obtain rfl : b = d := Option.some.inj hd
    exact hlt
  · have hd' : (if d = b then s.isBundled.toNat + c.toNat else s.refcnt d) ≠ 0 := (hr d) ▸ hd
    by_cases hdb : d = b
    · exact hdb ▸ hlt
    · rw [if_neg hdb] at hd'
      exact h.bound d hd'

theorem notifyBundle_books {ok : Bool} (h : Books none s) (hok : s.isBundled = true → ok = true)
    (ht : s.notifyBundle ok = some t) : Books none t := by
  obtain ⟨b, c, hpc, rfl⟩ := notifyBundle_some ht
  refine h.congr (fun _ => rfl) rfl rfl (fun d => ?_) (fun d => ?_) (fun d hd => ?_)
  · simp only [holders, hpc, PollPc.refs]
    show outRefs _ d + s.cmdQueue.count d + s.appRefs d + _ + loose none d =
      outRefs s.out d + s.cmdQueue.count d + s.appRefs d + _ + loose none d
    cases hb : s.isBundled with
    | false => simp
    | true =>
      simp only [hok hb, and_self, if_true, outRefs_cons, Bool.toNat_true]
      split <;> omega
  · simp only [inHand, hpc, PollPc.inHand]
  · rw [hpc]
    exact hd

theorem Books.retain {s t : StreamObj} {b : Nat} (h : Books none s)
    (hr : ∀ c, t.refcnt c = if c = b then s.refcnt b + 1 else s.refcnt c)
    (hk : t.kernel = s.kernel) (hn : t.bufNum = s.bufNum)
    (hh : ∀ c, t.holders c = s.holders c + if b = c then 1 else 0)
    (hi : ∀ c, t.inHand c ↔ s.inHand c ∧ c ≠ b) (hb : ∀ c, t.poll.buf = some c → s.poll.buf = some c)
    (hlt : b < s.bufNum) (hnk : b ∉ s.kernel) : Books none t where
  refs := fun c => by
    have hs := h.refs c
    rw [hr, hh]
    by_cases hcb : c = b
    · subst hcb
      simp only [if_true]
      omega
    · rw [if_neg hcb, if_neg (Ne.symm hcb)]
      exact hs
  home := fun c hc h0 hni => by
    rw [hr] at h0
    rw [hk]
    rw [hn] at hc
    by_cases hcb : c = b
    · rw [if_pos hcb] at h0
      omega
    · rw [if_neg hcb] at h0
      exact h.home c hc h0 (fun hin => hni ((hi c).mpr ⟨hin, hcb⟩))
  away := fun c hc => by
    rw [hk] at hc
    have hcb : c ≠ b := fun he => hnk (he ▸ hc)
    obtain ⟨h1, h2, h3⟩ := h.away c hc
    rw [hn, hr, if_neg hcb, hi]
    exact ⟨h1, h2, fun hin => h3 hin.1⟩
  bare := fun c hin => by
    obtain ⟨hs, hcb⟩ := (hi c).mp hin
    rw [hr, if_neg hcb]
    exact h.bare c hs
  range := fun c hc => by
    rw [hn]
    exact h.range c (hb c hc)
  bound := fun c hc => by
    rw [hn]
    rw [hr] at hc
    by_cases hcb : c = b
    · exact hcb ▸ hlt
    · rw [if_neg hcb] at hc
      exact h.bound c hc

theorem notifyLinked_books {ok : Bool} (h : Books none s) (hserved : Served s (.notifyLinked ok))
    (hover : HandedOver s (.notifyLinked ok)) (ht : s.notifyLinked ok = some t) : Books none t := by
  obtain ⟨b, c, hpc, ⟨hl, rfl⟩ | ⟨hl, rfl⟩⟩ := notifyLinked_some ht
  · have hsv : s.isBundled = true ∨ c = true := by
      simp only [Served, hpc, hl] at hserved
      simpa using hserved
    have hin : ∀ d, ¬ s.inHand d := by
      intro d hd
      simp only [inHand, hpc, PollPc.inHand] at hd
      obtain ⟨-, hb, hc⟩ := hd
      simp [hb, hc] at hsv
    refine h.congr (fun _ => rfl) rfl rfl (fun d => ?_) (fun d => ?_) (fun d hd => ?_)
    · simp only [holders, hpc, PollPc.refs]
      rfl
    · exact ⟨fun hd => hd.elim, fun hd => absurd hd (hin d)⟩
    · rw [hpc]
      exact hd
  · obtain ⟨rfl, hnk⟩ := hover hl
    refine @Books.retain s _ b h (fun d => setRefcnt_refcnt b _ d s) rfl rfl (fun d => ?_)
      (fun d => ?_) (fun d hd => ?_) (h.range b (by rw [hpc]; rfl)) (hnk b (by rw [hpc]; rfl))
    · simp only [holders, hpc, PollPc.refs, if_true, outRefs_cons]
      show _ + s.cmdQueue.count d + s.appRefs d + _ = _ + s.cmdQueue.count d + s.appRefs d + _ + _
      omega
    · refine ⟨fun hd => hd.elim, fun hd => ?_⟩
      obtain ⟨hd, hdb⟩ := hd
      simp only [inHand, hpc, PollPc.inHand] at hd
      exact absurd hd.1.symm hdb
    · rw [hpc]
      exact hd

theorem passOn_books {ok : Bool} (h : Books none s) (hops : OpsSucceed s (.passOn ok q))
    (hover : HandedOver s (.passOn ok q)) (ht : s.passOn ok q = some t) : Books none t := by
  obtain ⟨b, c, hpc, hcase⟩ := passOn_some ht
  have hin : ∀ d, ¬ s.inHand d := by
    intro d
    simp [inHand, hpc, PollPc.inHand]
  simp only [HandedOver, hpc] at hover
  obtain ⟨hs, rfl⟩ | ⟨hs, ⟨rfl, -, -⟩, rfl⟩ | ⟨hs, hno, rfl⟩ := hcase
  · rw [if_pos hs] at hover
    cases c with
    | true =>
      have hloose : Books (some b)
          { s with previewSkipCnt := s.previewSkipCnt - 1, poll := .idle } := by
        refine h.congr (fun _ => rfl) rfl rfl (fun d => ?_) (fun d => ?_) (fun d hd => ?_)
        · simp only [holders, hpc, PollPc.refs, loose, Option.some.injEq]
          show outRefs s.out d + s.cmdQueue.count d + s.appRefs d + 0 + _ =
            outRefs s.out d + s.cmdQueue.count d + s.appRefs d + _ + _
          simp
        · exact ⟨fun hd => hd.elim, fun hd => absurd hd (hin d)⟩
        · simp [PollPc.buf] at hd
      refine bufDone_books hloose (fun h1 => hops ?_)
      have h1' : s.refcnt b = 1 := h1
      simp [lastRelease, hpc, hs, h1']
    | false =>
      have h0 : s.refcnt b = 0 := by simpa using hover
      have hd0 := @bufDone_none b q
        { s with previewSkipCnt := s.previewSkipCnt - 1, poll := .idle } h0
      rw [hd0]
      refine h.congr (fun _ => rfl) rfl rfl (fun d => ?_) (fun d => ?_) (fun d hd => ?_)
      · simp only [holders, hpc, PollPc.refs]
        show outRefs s.out d + s.cmdQueue.count d + s.appRefs d + 0 + _ =
          outRefs s.out d + s.cmdQueue.count d + s.appRefs d + _ + _
        simp
      · exact ⟨fun hd => hd.elim, fun hd => absurd hd (hin d)⟩
      · simp [PollPc.buf] at hd
  · refine h.congr (fun _ => rfl) rfl rfl (fun d => ?_) (fun d => ?_) (fun d hd => ?_)
    · simp only [holders, hpc, PollPc.refs, List.count_append, List.count_singleton, beq_iff_eq]
      show outRefs s.out d + (s.cmdQueue.count d + _) + s.appRefs d + 0 + _ =
        outRefs s.out d + s.cmdQueue.count d + s.appRefs d + _ + _
      simp only [Bool.toNat_true]
      omega
    · exact ⟨fun hd => hd.elim, fun hd => absurd hd (hin d)⟩
    · simp [PollPc.buf] at hd
  · rw [if_neg hs] at hover
    have hc : c = false := by
      by_contra hne
      have htrue : c = true := by simpa using hne
      exact hno ⟨htrue, hover htrue⟩
    refine h.congr (fun _ => rfl) rfl rfl (fun d => ?_) (fun d => ?_) (fun d hd => ?_)
    · simp only [holders, hpc, hc, PollPc.refs]
      show outRefs s.out d + s.cmdQueue.count d + s.appRefs d + 0 + _ =
        outRefs s.out d + s.cmdQueue.count d + s.appRefs d + _ + _
      simp
    · exact ⟨fun hd => hd.elim, fun hd => absurd hd (hin d)⟩
    · simp [PollPc.buf] at hd

theorem takeNode_books (h : Books none s) (ht : s.takeNode = some t) : Books none t := by
  obtain ⟨b, rest, happ, hq, rfl⟩ := takeNode_some ht
  refine h.congr (fun _ => rfl) rfl rfl (fun d => ?_) (fun _ => Iff.rfl) (fun _ hd => hd)
  simp only [holders, appRefs, happ, hq, List.count_cons, beq_iff_eq]
  omega

theorem callback_books (h : Books none s) (ht : s.callback = some t) : Books none t := by
  obtain ⟨b, i, cbs, happ, rfl | rfl⟩ := callback_some ht
  · refine h.congr (fun _ => rfl) rfl rfl (fun d => ?_) (fun _ => Iff.rfl) (fun _ hd => hd)
    simp only [holders, appRefs, happ]
  · have hr := h.refs b
    have hone : s.appRefs b = 1 := by simp [appRefs, happ]
    have hne : s.refcnt b ≠ 0 := by
      simp only [holders] at hr
      omega
    have hnk : b ∉ s.kernel := fun hk => hne (h.away b hk).2.1
    have hni : ¬ s.inHand b := fun hi => hne (h.bare b hi)
    refine @Books.retain s _ b h (fun d => setRefcnt_refcnt b _ d s) rfl rfl (fun d => ?_)
      (fun d => ?_) (fun d hd => hd) (h.bound b hne) hnk
    · simp only [holders, appRefs, happ, outRefs_cons]
      show _ + s.cmdQueue.count d + _ + s.poll.refs s.isBundled d =
        _ + s.cmdQueue.count d + _ + s.poll.refs s.isBundled d + _
      omega
    · refine ⟨fun hd => ⟨hd, ?_⟩, fun hd => hd.1⟩
      rintro rfl
      exact hni hd

theorem doneNode_books (h : Books none s) (hops : OpsSucceed s (.doneNode q))
    (ht : s.doneNode q = some t) : Books none t := by
  obtain ⟨b, i, happ, rfl⟩ := doneNode_some ht
  have hloose : Books (some b) { s with app := none } := by
    refine h.congr (fun _ => rfl) rfl rfl (fun d => ?_) (fun _ => Iff.rfl) (fun _ hd => hd)
    simp only [holders, appRefs, happ, loose, Option.some.injEq]
    show _ + 0 + s.poll.refs s.isBundled d + _ = _ + _ + s.poll.refs s.isBundled d + _
    simp
    omega
  refine bufDone_books hloose (fun h1 => hops ?_)
  have h1' : s.refcnt b = 1 := h1
  simp [lastRelease, happ, h1']

theorem release_books {d : Holder} (h : Books none s) (ha : s.state = .active)
    (hops : OpsSucceed s (.release d b q)) (ht : s.release d b q = some t) : Books none t := by
  obtain ⟨hm, ⟨-, rfl⟩ | ⟨hs, -⟩⟩ := release_some ht
  · have hloose : Books (some b) { s with out := s.out.erase (d, b) } := by
      refine h.congr (fun _ => rfl) rfl rfl (fun c => ?_) (fun _ => Iff.rfl) (fun _ hd => hd)
      simp only [holders, outRefs_erase hm c, loose, Option.some.injEq]
      show _ + s.cmdQueue.count c + s.appRefs c + _ + _ =
        _ + _ + s.cmdQueue.count c + s.appRefs c + _ + _
      simp
      omega
    refine bufDone_books hloose (fun h1 => hops ?_)
    have h1' : s.refcnt b = 1 := h1
    simp [lastRelease, ha, h1']
  · exact absurd ha hs

theorem step_books {e : Event} (h : Books none s) (hk : s.kernel.Nodup) (ha : s.state = .active)
    (he : e.isControl = false) (hops : OpsSucceed s e) (hserved : Served s e)
    (hover : HandedOver s e) (ht : step s e = some t) : Books none t := by
  have hsame : ∀ u : StreamObj, (∀ b, u.refcnt b = s.refcnt b) → u.kernel = s.kernel →
      u.bufNum = s.bufNum → (∀ b, u.holders b = s.holders b) → u.poll = s.poll →
      u.isBundled = s.isBundled → Books none u := by
    intro u h1 h2 h3 h4 h5 h6
    refine h.congr h1 h2 h3 (fun b => by rw [h4]) (fun b => ?_) (fun b hb => h5 ▸ hb)
    rw [inHand, inHand, h5, h6]
  cases e with
  | dqbuf o => exact dqbuf_books h hk ht
  | countFrame ok =>
    obtain rfl : ok = true := hops
    exact countFrame_books h ht
  | checkCb => exact checkCb_books h ht
  | addRefs => exact addRefs_books h ht
  | notifyBundle ok => exact notifyBundle_books h hover ht
  | notifyLinked ok => exact notifyLinked_books h hserved hover ht
  | passOn ok q => exact passOn_books h hops hover ht
  | takeNode => exact takeNode_books h ht
  | callback => exact callback_books h ht
  | doneNode q => exact doneNode_books h hops ht
  | release d b q => exact release_books h ha hops ht
  | regBufCb c =>
    obtain ⟨-, cbs, rfl⟩ := regBufCb_some ht
    exact hsame _ (fun _ => rfl) rfl rfl (fun _ => rfl) rfl rfl
  | setLinked on =>
    obtain rfl := Option.some.inj ht
    exact hsame _ (fun _ => rfl) rfl rfl (fun _ => rfl) rfl rfl
  | setPreviewSkip n =>
    obtain rfl := Option.some.inj ht
    exact hsame _ (fun _ => rfl) rfl rfl (fun _ => rfl) rfl rfl
  | control c => simp [Event.isControl] at he

@[simp] theorem bufDone_holders (b : Nat) (q : QbufRc) (s : StreamObj) :
    (s.bufDone b q).2.holders = s.holders := by
  obtain ⟨-, ht⟩ | ⟨-, ht⟩ | ⟨-, -, -, ht⟩ | ⟨-, -, ht | ht⟩ := bufDone_cases b q s
  · rw [ht]
  · rw [ht]
    rfl
  · rw [ht, requeue_holders]
  · rw [ht]
    rfl
  · rw [ht]
    rfl

theorem bufDone_refcnt (h : s.refcnt b ≠ 0) : (s.bufDone b q).2.refcnt b = s.refcnt b - 1 := by
  obtain ⟨h0, -⟩ | ⟨-, ht⟩ | ⟨h1, -, -, ht⟩ | ⟨h1, -, ht | ht⟩ := bufDone_cases b q s
  · exact absurd h0 h
  · simp [ht]
  · simp [ht, h1, requeue_refcnt]
  · simp [ht, h1]
  · simp [ht, h1]

def RefsHold (s : StreamObj) : Prop :=
  (∀ b, s.refcnt b = s.holders b) ∧ ∀ b ∈ s.kernel, s.refcnt b = 0

theorem Books.refsHold (h : Books none s) : RefsHold s :=
  ⟨fun b => h.refs b, fun b hb => (h.away b hb).2.1⟩

theorem handedOver_of_refsHold {e : Event} (h : Books none s) (ht : step s e = some t)
    (hr : RefsHold t) : HandedOver s e := by
  cases e with
  | notifyBundle ok =>
    obtain ⟨b, c, hpc, rfl⟩ := notifyBundle_some ht
    intro hb
    cases ok with
    | true => rfl
    | false =>
      have hs := h.refs b
      have hd : s.refcnt b =
        outRefs (if s.isBundled = true ∧ false = true then (.bundle, b) :: s.out else s.out) b +
          s.cmdQueue.count b + s.appRefs b + (if b = b then c.toNat else 0) := hr.1 b
      simp only [holders, hpc, PollPc.refs, hb, loose] at hs
      simp at hs hd
      omega
  | notifyLinked ok =>
    obtain ⟨b, c, hpc, ⟨hl, rfl⟩ | ⟨hl, rfl⟩⟩ := notifyLinked_some ht
    · intro hl'
      simp [hl] at hl'
    · intro _
      have hup : (s.setRefcnt b (s.refcnt b + 1)).refcnt b = s.refcnt b + 1 := by
        rw [setRefcnt_refcnt, if_pos rfl]
      refine ⟨?_, ?_⟩
      · cases ok with
        | true => rfl
        | false =>
          have hs := h.refs b
          have hd : (s.setRefcnt b (s.refcnt b + 1)).refcnt b =
            outRefs (if false = true then (.linked, b) :: s.out else s.out) b +
              s.cmdQueue.count b + s.appRefs b + (if b = b then c.toNat else 0) := hr.1 b
          rw [hup] at hd
          simp only [holders, hpc, PollPc.refs, loose] at hs
          simp at hs hd
          omega
      · intro d hd hk
        rw [hpc] at hd
        obtain rfl : b = d := Option.some.inj hd
        have hz : (s.setRefcnt b (s.refcnt b + 1)).refcnt b = 0 := hr.2 b hk
        omega
  | passOn ok q =>
    obtain ⟨b, c, hpc, hcase⟩ := passOn_some ht
    have hs := h.refs b
    simp only [holders, hpc, PollPc.refs, loose, if_true] at hs
    simp only [HandedOver, hpc]
    obtain ⟨hsk, rfl⟩ | ⟨hsk, ⟨-, ha, hok⟩, -⟩ | ⟨hsk, hno, rfl⟩ := hcase
    · rw [if_pos hsk]
      cases c with
      | true => exact Or.inl rfl
      | false =>
        right
        have hd := hr.1 b
        rw [bufDone_holders] at hd
        have hh : (({ s with previewSkipCnt := s.previewSkipCnt - 1, poll := .idle } :
            StreamObj).bufDone b q).2.refcnt b =
              outRefs s.out b + s.cmdQueue.count b + s.appRefs b + 0 := hd
        simp at hs
        by_contra hne
        have hdec : (({ s with previewSkipCnt := s.previewSkipCnt - 1, poll := .idle } :
            StreamObj).bufDone b q).2.refcnt b = s.refcnt b - 1 := by
          exact bufDone_refcnt hne
        omega
    · rw [if_neg hsk]
      exact fun _ => ⟨ha, hok⟩
    · rw [if_neg hsk]
      intro hc
      by_contra hne
      have hd : s.refcnt b =
        outRefs s.out b + s.cmdQueue.count b + s.appRefs b + 0 := hr.1 b
      simp [hc] at hs
      omega
  | _ => trivial

end Wt88047.Stream
