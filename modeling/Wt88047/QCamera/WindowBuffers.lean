import Wt88047.QCamera.GrallocMemory

/-! The ownership of the window's buffers over the runs of the preview memory. -/

namespace Wt88047.Gralloc

open World

/-- The first `n` entries are buffers of the window, of which those that are not owned went back once;
so did all other buffers. The descriptors of the entries below `lo` are closed. -/
structure Sound (lo n : Nat) (w : World) : Prop where
  count : n ≤ maxNumFrames
  unowned : ∀ i, n ≤ i → w.owned i = false
  handle : ∀ i < n, ∃ b, w.bufferHandle i = some b ∧ w.dequeued b = true
  distinct : ∀ i < n, ∀ j < n, w.bufferHandle i = w.bufferHandle j → i = j
  ledger : ∀ i < n, ∀ b, w.bufferHandle i = some b → w.returned b = if w.owned i then 0 else 1
  others : ∀ b, w.dequeued b = true → (∀ i < n, w.bufferHandle i ≠ some b) → w.returned b = 1
  ion : ∀ fd ∈ w.ionOpen, ∃ i, lo ≤ i ∧ i < n ∧ w.mainIonFd i = some fd
  memory : ∀ i < n, w.cameraMemory i = true
  within : w.beyond = false

namespace Sound

variable {lo n : Nat} {w : World} {i : Nat}

theorem settled (h : Sound lo n w) : w.Settled := by
  intro b hb
  by_cases hin : ∃ i < n, w.bufferHandle i = some b
  · obtain ⟨i, hi, hbi⟩ := hin
    have hledger := h.ledger i hi b hbi
    by_cases ho : w.owned i = true
    · rw [if_pos ho] at hledger
      exact Or.inl ⟨⟨i, ho, hbi⟩, hledger⟩
    · rw [if_neg ho] at hledger
      refine Or.inr ⟨?_, hledger⟩
      rintro ⟨j, hj, hbj⟩
      have hlt : j < n := by
        by_contra hge
        rw [h.unowned j (Nat.le_of_not_lt hge)] at hj
        cases hj
      obtain rfl := h.distinct i hi j hlt (hbi.trans hbj.symm)
      exact ho hj
  · have hnone : ∀ i < n, w.bufferHandle i ≠ some b := fun i hi hbi => hin ⟨i, hi, hbi⟩
    refine Or.inr ⟨?_, h.others b hb hnone⟩
    rintro ⟨j, hj, hbj⟩
    by_cases hlt : j < n
    · exact hnone j hlt hbj
    · rw [h.unowned j (Nat.le_of_not_lt hlt)] at hj
      cases hj

theorem release (h : Sound lo n w) (hi : i < n) (ho : w.owned i = true) :
    Sound lo n ((w.giveBack i true).setOwned i false) := by
  obtain ⟨b, hb, hdeq⟩ := h.handle i hi
  have hgive : w.giveBack i true =
      { w with returned := Function.update w.returned b (w.returned b + 1) } := by
    rw [giveBack, hb]
    rfl
  have hledger := h.ledger i hi b hb
  rw [if_pos ho] at hledger
  rw [hgive]
  refine ⟨h.count, fun j hj => ?_, h.handle, h.distinct, fun j hj c hc => ?_, fun c hc hnone => ?_,
    h.ion, h.memory, h.within⟩
  · change Function.update w.owned i false j = false
    rw [Function.update_of_ne (by omega)]
    exact h.unowned j hj
  · change Function.update w.returned b (w.returned b + 1) c = if Function.update w.owned i false j then 0 else 1
    by_cases hji : j = i
    · rw [hji] at hc ⊢
      obtain rfl := Option.some.inj (hb.symm.trans hc)
      rw [Function.update_self, Function.update_self, hledger, if_neg Bool.false_ne_true]
    · have hcb : c ≠ b := by
        rintro rfl
        exact hji (h.distinct j hj i hi (hc.trans hb.symm))
      rw [Function.update_of_ne hcb, Function.update_of_ne hji]
      exact h.ledger j hj c hc
  · change Function.update w.returned b (w.returned b + 1) c = 1
    have hcb : c ≠ b := by
      rintro rfl
      exact hnone i hi hb
    rw [Function.update_of_ne hcb]
    exact h.others c hc hnone

theorem retake {b : Nat} (h : Sound lo n w) (hi : i < n) (hb : w.bufferHandle i = some b) :
    Sound lo n ((w.dequeue b).setOwned i true) := by
  refine ⟨h.count, fun j hj => ?_, fun j hj => ?_, h.distinct, fun j hj c hc => ?_,
    fun c hc hnone => ?_, h.ion, h.memory, h.within⟩
  · change Function.update w.owned i true j = false
    rw [Function.update_of_ne (by omega)]
    exact h.unowned j hj
  · obtain ⟨c, hc, hdeq⟩ := h.handle j hj
    refine ⟨c, hc, ?_⟩
    change Function.update w.dequeued b true c = true
    by_cases hcb : c = b
    · rw [hcb, Function.update_self]
    · rw [Function.update_of_ne hcb]
      exact hdeq
  · change Function.update w.returned b 0 c = if Function.update w.owned i true j then 0 else 1
    by_cases hji : j = i
    · rw [hji] at hc ⊢
      obtain rfl := Option.some.inj (hb.symm.trans hc)
      rw [Function.update_self, Function.update_self, if_pos rfl]
    · have hcb : c ≠ b := by
        rintro rfl
        exact hji (h.distinct j hj i hi (hc.trans hb.symm))
      rw [Function.update_of_ne hcb, Function.update_of_ne hji]
      exact h.ledger j hj c hc
  · change Function.update w.returned b 0 c = 1
    have hcb : c ≠ b := by
      rintro rfl
      exact hnone i hi hb
    rw [Function.update_of_ne hcb]
    refine h.others c ?_ hnone
    change Function.update w.dequeued b true c = true at hc
    rwa [Function.update_of_ne hcb] at hc

theorem disown (h : Sound lo n w) (ho : w.owned i = false) : Sound lo n (w.setOwned i false) := by
  have hsame : w.setOwned i false = w := by
    rw [setOwned, ← ho, Function.update_eq_self]
  rw [hsame]
  exact h

theorem extend {b : Nat} (h : Sound lo n w) (hn : n < maxNumFrames) (hlo : lo ≤ n)
    (hnew : ∀ i < n, w.bufferHandle i ≠ some b) :
    Sound lo (n + 1) { (w.dequeue b).setOwned n true with
      bufferHandle := Function.update w.bufferHandle n (some b)
      mainIonFd := Function.update w.mainIonFd n (some w.nextFd)
      ionOpen := w.nextFd :: w.ionOpen
      nextFd := w.nextFd + 1
      cameraMemory := Function.update w.cameraMemory n true } := by
  have hold : ∀ i < n, Function.update w.bufferHandle n (some b) i = w.bufferHandle i :=
    fun i hi => Function.update_of_ne (by omega) ..
  have hself : Function.update w.bufferHandle n (some b) n = some b := Function.update_self ..
  refine ⟨hn, fun i hi => ?_, fun i hi => ?_, fun i hi j hj he => ?_, fun i hi c hc => ?_,
    fun c hc hnone => ?_, fun fd hfd => ?_, fun i hi => ?_, h.within⟩
  · change Function.update w.owned n true i = false
    rw [Function.update_of_ne (by omega)]
    exact h.unowned i (by omega)
  · rcases Nat.lt_succ_iff_lt_or_eq.mp hi with hi | rfl
    · obtain ⟨c, hc, hdeq⟩ := h.handle i hi
      refine ⟨c, (hold i hi).trans hc, ?_⟩
      change Function.update w.dequeued b true c = true
      by_cases hcb : c = b
      · rw [hcb, Function.update_self]
      · rw [Function.update_of_ne hcb]
        exact hdeq
    · exact ⟨b, hself, Function.update_self ..⟩
  · dsimp only at he
    rcases Nat.lt_succ_iff_lt_or_eq.mp hi with hi | rfl
    · rw [hold i hi] at he
      rcases Nat.lt_succ_iff_lt_or_eq.mp hj with hj | rfl
      · rw [hold j hj] at he
        exact h.distinct i hi j hj he
      · rw [hself] at he
        exact absurd he (hnew i hi)
    · rw [hself] at he
      rcases Nat.lt_succ_iff_lt_or_eq.mp hj with hj | rfl
      · rw [hold j hj] at he
        exact absurd he.symm (hnew j hj)
      · rfl
  · change Function.update w.bufferHandle n (some b) i = some c at hc
    change Function.update w.returned b 0 c = if Function.update w.owned n true i then 0 else 1
    rcases Nat.lt_succ_iff_lt_or_eq.mp hi with hi | rfl
    · rw [hold i hi] at hc
      have hcb : c ≠ b := by
        rintro rfl
        exact hnew i hi hc
      rw [Function.update_of_ne hcb, Function.update_of_ne (by omega)]
      exact h.ledger i hi c hc
    · rw [hself] at hc
      obtain rfl := Option.some.inj hc
      rw [Function.update_self, Function.update_self, if_pos rfl]
  · have hcb : c ≠ b := by
      rintro rfl
      exact hnone n (Nat.lt_succ_self n) hself
    change Function.update w.returned b 0 c = 1
    rw [Function.update_of_ne hcb]
    refine h.others c ?_ fun i hi hci => hnone i (by omega) ((hold i hi).trans hci)
    change Function.update w.dequeued b true c = true at hc
    rwa [Function.update_of_ne hcb] at hc
  · change ∃ i, lo ≤ i ∧ i < n + 1 ∧ Function.update w.mainIonFd n (some w.nextFd) i = some fd
    rcases List.mem_cons.mp hfd with rfl | hfd
    · exact ⟨n, hlo, Nat.lt_succ_self n, Function.update_self ..⟩
    · obtain ⟨i, hge, hlt, hi⟩ := h.ion fd hfd
      refine ⟨i, hge, by omega, ?_⟩
      rw [Function.update_of_ne (by omega)]
      exact hi
  · change Function.update w.cameraMemory n true i = true
    rcases Nat.lt_succ_iff_lt_or_eq.mp hi with hi | rfl
    · rw [Function.update_of_ne (by omega)]
      exact h.memory i hi
    · exact Function.update_self ..

end Sound

theorem allocLoop_succ (attempts : Nat → Attempt) (cancels : Nat → Bool) (n cnt : Nat) (w : World) :
    allocLoop attempts cancels (n + 1) cnt w =
      if maxNumFrames ≤ cnt then none
      else match (attempts cnt).buffer with
      | none => some ((rollBackAll false cancels cnt (w.setOwned cnt false)).clearMemInfo, false)
      | some b =>
        let w := { (w.dequeue b).setOwned cnt true with
          bufferHandle := Function.update w.bufferHandle cnt (some b) }
        if !(attempts cnt).ion then some ((rollBackAll true cancels cnt w).clearMemInfo, false)
        else
          let w := { w with
            mainIonFd := Function.update w.mainIonFd cnt (some w.nextFd)
            ionOpen := w.nextFd :: w.ionOpen
            nextFd := w.nextFd + 1 }
          if !(attempts cnt).imported then
            some (((rollBackAll true cancels cnt w).closeIon cnt).clearMemInfo, false)
          else allocLoop attempts cancels n (cnt + 1)
            { w with cameraMemory := Function.update w.cameraMemory cnt (attempts cnt).memory } := rfl

theorem allocLoop_all {attempts : Nat → Attempt} (cancels : Nat → Bool) (n : Nat) {cnt : Nat} {w : World}
    (h : Sound 0 cnt w) (hown : ∀ i < cnt, w.owned i = true)
    (hsame : ∀ i < cnt, w.bufferHandle i = (attempts i).buffer) (hmax : cnt + n ≤ maxNumFrames)
    (hall : ∀ i < cnt + n, (attempts i).buffer ≠ none ∧ (attempts i).ion = true ∧
      (attempts i).imported = true ∧ (attempts i).memory = true)
    (hnew : ∀ i < cnt + n, ∀ j < i, ∀ b ∈ (attempts i).buffer, b ∉ (attempts j).buffer) :
    ∃ w', allocLoop attempts cancels n cnt w = some (w', true) ∧ Sound 0 (cnt + n) w' ∧
      (∀ i < cnt + n, w'.owned i = true) ∧ w'.window = w.window := by
  induction n generalizing cnt w with
  | zero => exact ⟨w, rfl, h, hown, rfl⟩
  | succ n ih =>
    have hlt : cnt < maxNumFrames := by omega
    obtain ⟨hbuffer, hion, himported, hmemory⟩ := hall cnt (by omega)
    obtain ⟨b, hb⟩ := Option.ne_none_iff_exists'.mp hbuffer
    have hfresh : ∀ i < cnt, w.bufferHandle i ≠ some b := by
      intro i hi he
      rw [hsame i hi] at he
      exact hnew cnt (by omega) i hi b hb he
    have hnext := h.extend hlt (Nat.zero_le cnt) hfresh
    rw [allocLoop_succ, if_neg (Nat.not_le.mpr hlt), hb, hion, himported, hmemory]
    dsimp only
    rw [if_neg (show ¬(!true) = true by decide), if_neg (show ¬(!true) = true by decide)]
    rw [show cnt + (n + 1) = cnt + 1 + n by omega] at hmax hall hnew ⊢
    refine ih hnext (fun i hi => ?_) (fun i hi => ?_) (by omega) hall hnew
    · change Function.update w.owned cnt true i = true
      by_cases hic : i = cnt
      · rw [hic, Function.update_self]
      · rw [Function.update_of_ne hic]
        exact hown i (by omega)
    · change Function.update w.bufferHandle cnt (some b) i = _
      by_cases hic : i = cnt
      · rw [hic, Function.update_self, hb]
      · rw [Function.update_of_ne hic]
        exact hsame i (by omega)

theorem cancelMin_succ (cancels : Nat → Bool) (n i : Nat) (w : World) :
    cancelMin cancels (n + 1) i w =
      if maxNumFrames ≤ i then none
      else cancelMin cancels n (i + 1)
        { (w.giveBack i (cancels i)).setOwned i false with beyond := w.beyond || decide (w.bufferCount ≤ i) } :=
  rfl

theorem giveBack_fields (w : World) (i : Nat) (ok : Bool) :
    (w.giveBack i ok).bufferCount = w.bufferCount ∧ (w.giveBack i ok).window = w.window ∧
      (w.giveBack i ok).owned = w.owned := by
  rw [giveBack]
  split
  · split_ifs
    · exact ⟨rfl, rfl, rfl⟩
    · exact ⟨rfl, rfl, rfl⟩
  · exact ⟨rfl, rfl, rfl⟩

variable {cancels : Nat → Bool}

theorem cancelMin_sound (k : Nat) {i n : Nat} {w : World} (h : Sound 0 n w)
    (hcount : w.bufferCount = n) (hi : i + k ≤ n) (hown : ∀ j, i ≤ j → j < n → w.owned j = true)
    (hcancel : ∀ j < i + k, cancels j = true) :
    ∃ w', cancelMin cancels k i w = some w' ∧ Sound 0 n w' ∧ w'.bufferCount = n ∧ w'.window = w.window := by
  induction k generalizing i w with
  | zero => exact ⟨w, rfl, h, hcount, rfl⟩
  | succ k ih =>
    obtain ⟨hbc, hwin, hflags⟩ := giveBack_fields w i true
    have hlt : i < n := by omega
    have hreleased := h.release hlt (hown i (Nat.le_refl i) hlt)
    have hwithin : (w.beyond || decide (w.bufferCount ≤ i)) = false := by
      rw [h.within, hcount, decide_eq_false (Nat.not_le.mpr hlt)]
      rfl
    have hrest : ∀ j, i + 1 ≤ j → j < n → ((w.giveBack i true).setOwned i false).owned j = true := by
      intro j hge hj
      change Function.update (w.giveBack i true).owned i false j = true
      rw [Function.update_of_ne (by omega), hflags]
      exact hown j (by omega) hj
    rw [cancelMin_succ, if_neg (Nat.not_le.mpr (Nat.lt_of_lt_of_le hlt h.count)), hcancel i (by omega), hwithin]
    obtain ⟨w', hw', hsound, hcount', hwindow⟩ := ih (i := i + 1)
      (w := { (w.giveBack i true).setOwned i false with beyond := false })
      ⟨hreleased.count, hreleased.unowned, hreleased.handle, hreleased.distinct, hreleased.ledger,
        hreleased.others, hreleased.ion, hreleased.memory, rfl⟩
      (hbc.trans hcount) (by omega) hrest (fun j hj => hcancel j (by omega))
    exact ⟨w', hw', hsound, hcount', hwindow.trans hwin⟩

theorem deallocLoop_succ (cancels : Nat → Bool) (n cnt : Nat) (w : World) :
    deallocLoop cancels (n + 1) cnt w =
      if !w.cameraMemory cnt then none
      else
        let w := w.closeIon cnt
        let w := if w.owned cnt && w.window then w.giveBack cnt (cancels cnt) else w
        deallocLoop cancels n (cnt + 1) (w.setOwned cnt false) := rfl

theorem Sound.close {cnt n : Nat} {w : World} (h : Sound cnt n w) : Sound (cnt + 1) n (w.closeIon cnt) := by
  refine ⟨h.count, h.unowned, h.handle, h.distinct, h.ledger, h.others, fun fd hfd => ?_, h.memory, h.within⟩
  obtain ⟨hmem, hne⟩ := List.mem_filter.mp hfd
  obtain ⟨i, hge, hlt, hi⟩ := h.ion fd hmem
  refine ⟨i, ?_, hlt, hi⟩
  rcases Nat.lt_or_eq_of_le hge with hlt' | rfl
  · exact hlt'
  · exact absurd hi (of_decide_eq_true hne)

theorem deallocLoop_sound (k : Nat) {cnt n : Nat} {w : World} (h : Sound cnt n w) (hk : cnt + k = n)
    (hwin : w.window = true) (hdone : ∀ i < cnt, w.owned i = false)
    (hcancel : ∀ i < n, w.owned i = true → cancels i = true) :
    ∃ w', deallocLoop cancels k cnt w = some w' ∧ Sound n n w' ∧ (∀ i, w'.owned i = false) := by
  induction k generalizing cnt w with
  | zero =>
    obtain rfl : cnt = n := hk
    refine ⟨w, rfl, h, fun i => ?_⟩
    by_cases hi : i < cnt
    · exact hdone i hi
    · exact h.unowned i (Nat.le_of_not_lt hi)
  | succ k ih =>
    have hlt : cnt < n := by omega
    have hclosed := h.close
    have hrest : ∀ (v : World) (hv : v.owned = w.owned),
        (∀ i < cnt + 1, (v.setOwned cnt false).owned i = false) ∧
          ∀ i < n, (v.setOwned cnt false).owned i = true → cancels i = true := by
      intro v hv
      refine ⟨fun i hi => ?_, fun i hi ho => ?_⟩
      · change Function.update v.owned cnt false i = false
        by_cases hic : i = cnt
        · rw [hic, Function.update_self]
        · rw [Function.update_of_ne hic, hv]
          exact hdone i (by omega)
      · change Function.update v.owned cnt false i = true at ho
        by_cases hic : i = cnt
        · rw [hic, Function.update_self] at ho
          cases ho
        · rw [Function.update_of_ne hic, hv] at ho
          exact hcancel i hi ho
    rw [deallocLoop_succ, h.memory cnt hlt, if_neg (show ¬(!true) = true by decide)]
    dsimp only
    by_cases ho : w.owned cnt = true
    · have hboth : ((w.closeIon cnt).owned cnt && (w.closeIon cnt).window) = true := by
        change (w.owned cnt && w.window) = true
        rw [ho, hwin]
        rfl
      obtain ⟨-, hwindow, hflags⟩ := giveBack_fields (w.closeIon cnt) cnt true
      rw [if_pos hboth, hcancel cnt hlt ho]
      exact ih (hclosed.release hlt ho) (by omega) (hwindow.trans hwin) (hrest _ hflags).1 (hrest _ hflags).2
    · have ho' : w.owned cnt = false := Bool.eq_false_iff.mpr ho
      have hboth : ¬((w.closeIon cnt).owned cnt && (w.closeIon cnt).window) = true := by
        change ¬(w.owned cnt && w.window) = true
        rw [ho']
        exact Bool.false_ne_true
      rw [if_neg hboth]
      exact ih (hclosed.disown ho') (by omega) hwin (hrest (w.closeIon cnt) rfl).1 (hrest (w.closeIon cnt) rfl).2

structure Good (w : World) : Prop where
  sound : Sound 0 w.bufferCount w
  window : w.bufferCount ≠ 0 → w.window = true

theorem good_init (window : Bool) : Good { window } where
  sound := ⟨Nat.zero_le _, fun _ _ => rfl, fun i hi => absurd hi (Nat.not_lt_zero i),
    fun i hi => absurd hi (Nat.not_lt_zero i), fun i hi => absurd hi (Nat.not_lt_zero i),
    fun _ hb => absurd hb Bool.false_ne_true, fun _ hfd => absurd hfd List.not_mem_nil,
    fun i hi => absurd hi (Nat.not_lt_zero i), rfl⟩
  window h := absurd rfl h

variable {w : World}

theorem Good.empty (h : Good w) (hc : w.bufferCount = 0) : w.Empty := by
  refine ⟨fun i => h.sound.unowned i (by omega), List.eq_nil_iff_forall_not_mem.mpr fun fd hfd => ?_⟩
  obtain ⟨i, -, hlt, -⟩ := h.sound.ion fd hfd
  omega

theorem Good.congr {v : World} (h : Good w) (hb : v.bufferCount = w.bufferCount)
    (hh : v.bufferHandle = w.bufferHandle) (ho : v.owned = w.owned) (hd : v.dequeued = w.dequeued)
    (hr : v.returned = w.returned) (hi : v.ionOpen = w.ionOpen) (hm : v.cameraMemory = w.cameraMemory)
    (hf : ∀ i < w.bufferCount, v.mainIonFd i = w.mainIonFd i) (hw : v.window = w.window)
    (hbeyond : v.beyond = w.beyond) : Good v := by
  obtain ⟨hs, hwin⟩ := h
  refine ⟨⟨by rw [hb]; exact hs.count, by rw [hb, ho]; exact hs.unowned, by rw [hb, hh, hd]; exact hs.handle,
    by rw [hb, hh]; exact hs.distinct, by rw [hb, hh, hr, ho]; exact hs.ledger,
    by rw [hb, hh, hr, hd]; exact hs.others, ?_, by rw [hb, hm]; exact hs.memory,
    hbeyond.trans hs.within⟩, by rw [hb, hw]; exact hwin⟩
  rw [hi, hb]
  intro fd hfd
  obtain ⟨i, hge, hlt, he⟩ := hs.ion fd hfd
  exact ⟨i, hge, hlt, (hf i hlt).trans he⟩

theorem allocate_good {count : Nat} {setup : Setup} {attempts : Nat → Attempt} (h : Good w)
    (hf : (Event.allocate count setup attempts cancels).Faithful)
    (hm : (Event.allocate count setup attempts cancels).Meets w) :
    ∃ w' ok, allocate count setup attempts cancels w = some (w', ok) ∧ Good w' ∧
      (ok = false → w'.bufferCount = 0) := by
  obtain ⟨hzero, hmeets⟩ := hm
  unfold allocate
  by_cases hwin : w.window = true
  · rw [if_neg (show ¬(!w.window) = true by rw [hwin]; decide)]
    cases hk : setup.minUndequeued with
    | none => exact ⟨w, false, rfl, h, fun _ => hzero⟩
    | some k =>
      have hset : Good { w with minUndequeuedBuffers := k } :=
        h.congr rfl rfl rfl rfl rfl rfl rfl (fun _ _ => rfl) rfl rfl
      dsimp only
      by_cases hc : setup.configured = true
      · rw [hc, if_neg (show ¬(!true) = true by decide)]
        have hnone : ∀ n v, n = 0 → Sound 0 n v → Sound 0 0 v := fun n v hn hs => hn ▸ hs
        have hsound : Sound 0 0 { w with minUndequeuedBuffers := k } := hnone _ _ hzero hset.sound
        rcases hmeets hwin k hk hc with ⟨hpos, hfirst⟩ | ⟨hmax, hmin, hcancel, hall⟩
        · -- the first buffer is refused, and nothing is there to be rolled back
          obtain ⟨n, rfl⟩ : ∃ n, count = n + 1 := ⟨count - 1, by omega⟩
          rw [allocLoop_succ, if_neg (show ¬maxNumFrames ≤ 0 by decide), hfirst]
          have hdis := hsound.disown (hsound.unowned 0 (Nat.le_refl 0))
          refine ⟨_, false, rfl, ⟨?_, fun hne => absurd hzero hne⟩, fun _ => hzero⟩
          have hempty : ({ w with minUndequeuedBuffers := k } : World).ionOpen = [] := (h.empty hzero).2
          have hcount : ∀ n v, n = 0 → Sound 0 0 v → Sound 0 n v := fun n v hn hs => hn ▸ hs
          refine hcount _ _ hzero ?_
          refine ⟨hdis.count, hdis.unowned, hdis.handle, hdis.distinct, hdis.ledger, hdis.others,
            fun fd hfd => ?_, hdis.memory, hdis.within⟩
          change fd ∈ w.ionOpen at hfd
          rw [show w.ionOpen = [] from hempty] at hfd
          cases hfd
        · obtain ⟨v, hv, hfilled, howned, hvwin⟩ := allocLoop_all cancels count hsound
            (fun i hi => absurd hi (Nat.not_lt_zero i)) (fun i hi => absurd hi (Nat.not_lt_zero i))
            (by rw [Nat.zero_add]; exact hmax) (by rw [Nat.zero_add]; exact hall)
            (by rw [Nat.zero_add]; exact hf)
          rw [Nat.zero_add] at hfilled howned
          obtain ⟨w', hw', hsound', hcount', hwin'⟩ := cancelMin_sound k.toNat
            (i := 0) (n := count) (w := { v with bufferCount := count })
            ⟨hfilled.count, hfilled.unowned, hfilled.handle, hfilled.distinct, hfilled.ledger,
              hfilled.others, hfilled.ion, hfilled.memory, hfilled.within⟩
            rfl (by omega) (fun j _ hj => howned j hj) (fun j hj => hcancel j (by omega))
          rw [hv]
          dsimp only
          rw [hw']
          refine ⟨w', true, rfl, ⟨by rw [hcount']; exact hsound', fun _ => ?_⟩, fun hok => nomatch hok⟩
          exact (hwin'.trans hvwin).trans hwin
      · rw [Bool.eq_false_iff.mpr hc, if_pos (show (!false) = true by decide)]
        exact ⟨_, false, rfl, hset, fun _ => hzero⟩
  · rw [if_pos (show (!w.window) = true by rw [Bool.eq_false_iff.mpr hwin]; decide)]
    exact ⟨w, false, rfl, h, fun _ => hzero⟩

theorem displayBuffer_good {index : Nat} {enqueued : Bool} {dequeued : Option Nat} (h : Good w)
    (hm : (Event.displayBuffer index enqueued dequeued).Meets w) :
    ∃ w', displayBuffer index enqueued dequeued w = some w' ∧ Good w' := by
  obtain ⟨hi, hback⟩ := hm
  have hwin := h.window (by omega)
  have hwithin : (w.beyond || decide (w.bufferCount ≤ index)) = false := by
    rw [h.sound.within, decide_eq_false (Nat.not_le.mpr hi)]
    rfl
  have hsame : ({ w with beyond := false } : World) = w := by
    rw [← h.sound.within]
  unfold displayBuffer
  rw [if_neg (Nat.not_le.mpr (Nat.lt_of_lt_of_le hi h.sound.count)), hwithin, hsame]
  dsimp only
  by_cases ho : w.owned index = true
  · rw [ho, hwin, if_neg (show ¬(!true) = true by decide), if_neg (show ¬(!true) = true by decide)]
    obtain ⟨hcount, hwindow, -⟩ := giveBack_fields w index true
    have hgiven : ∀ v, v = (if enqueued = true then (w.giveBack index true).setOwned index false else w) →
        Sound 0 w.bufferCount v ∧ v.bufferCount = w.bufferCount ∧ v.window = w.window ∧
          v.bufferHandle = w.bufferHandle := by
      rintro v rfl
      split_ifs
      · refine ⟨h.sound.release hi ho, hcount, hwindow, ?_⟩
        rw [giveBack]
        split
        · rfl
        · rfl
      · exact ⟨h.sound, rfl, rfl, rfl⟩
    generalize hv : (if enqueued = true then (w.giveBack index true).setOwned index false else w) = v
    obtain ⟨hs, hc, hw, hh⟩ := hgiven v hv.symm
    cases dequeued with
    | none => exact ⟨v, rfl, by rw [hc]; exact hs, fun _ => hw.trans hwin⟩
    | some b =>
      obtain ⟨j, hj, hb⟩ := hback ho b rfl
      dsimp only
      have hfind : ∃ i, (List.range (v.dequeue b).bufferCount).find?
          (fun i => (v.dequeue b).bufferHandle i = some b) = some i := by
        rw [← Option.isSome_iff_exists, List.find?_isSome]
        refine ⟨j, List.mem_range.mpr ?_, decide_eq_true ?_⟩
        · exact Nat.lt_of_lt_of_eq hj hc.symm
        · exact (congrFun hh j).trans hb
      obtain ⟨i, hfi⟩ := hfind
      have hmem : i < v.bufferCount := List.mem_range.mp (List.mem_of_find?_eq_some hfi)
      have hfound := List.find?_some hfi
      have hbi : v.bufferHandle i = some b := of_decide_eq_true hfound
      rw [hfi]
      refine ⟨_, rfl, ?_, fun _ => hw.trans hwin⟩
      change Sound 0 v.bufferCount _
      rw [hc]
      exact hs.retake (Nat.lt_of_lt_of_eq hmem hc) hbi
  · rw [Bool.eq_false_iff.mpr ho, if_pos (show (!false) = true by decide)]
    exact ⟨w, rfl, h⟩

theorem deallocate_good (h : Good w) (hm : (Event.deallocate cancels).Meets w) :
    ∃ w', deallocate cancels w = some w' ∧ Good w' := by
  obtain ⟨v, hv, hsound, hfree⟩ : ∃ v, deallocLoop cancels w.bufferCount 0 w = some v ∧
      Sound w.bufferCount w.bufferCount v ∧ ∀ i, v.owned i = false := by
    by_cases hz : w.bufferCount = 0
    · have hs := h.sound
      rw [hz] at hs ⊢
      exact ⟨w, rfl, hs, fun i => hs.unowned i (Nat.zero_le i)⟩
    · exact deallocLoop_sound w.bufferCount h.sound (Nat.zero_add _) (h.window hz)
        (fun i hi => absurd hi (Nat.not_lt_zero i)) hm
  unfold deallocate
  rw [hv]
  refine ⟨_, rfl, ⟨⟨Nat.zero_le _, fun i _ => hfree i, fun i hi => absurd hi (Nat.not_lt_zero i),
    fun i hi => absurd hi (Nat.not_lt_zero i), fun i hi => absurd hi (Nat.not_lt_zero i),
    fun b hb _ => ?_, fun fd hfd => ?_, fun i hi => absurd hi (Nat.not_lt_zero i), hsound.within⟩,
    fun hne => absurd rfl hne⟩⟩
  · by_cases hin : ∃ i < w.bufferCount, v.bufferHandle i = some b
    · obtain ⟨i, hi, hbi⟩ := hin
      have hledger := hsound.ledger i hi b hbi
      rwa [hfree i, if_neg Bool.false_ne_true] at hledger
    · exact hsound.others b hb fun i hi hbi => hin ⟨i, hi, hbi⟩
  · obtain ⟨i, hge, hlt, -⟩ := hsound.ion fd hfd
    omega

theorem step_good {e : Event} (h : Good w) (hf : e.Faithful) (hm : e.Meets w) :
    ∃ w', step w e = some w' ∧ Good w' := by
  cases e with
  | allocate count setup attempts cancels =>
    obtain ⟨w', ok, hw', hgood, -⟩ := allocate_good h hf hm
    exact ⟨w', Option.map_eq_some_iff.mpr ⟨_, hw', rfl⟩, hgood⟩
  | displayBuffer index enqueued dequeued => exact displayBuffer_good h hm
  | deallocate cancels => exact deallocate_good h hm

theorem step_kept {e : Event} (h : Good w) (hf : e.Faithful) (hm : e.Meets w) :
    ∀ w', step w e = some w' → Kept w e w' := by
  intro w' hw'
  obtain ⟨v, hv, hgood⟩ := step_good h hf hm
  obtain rfl := Option.some.inj (hw'.symm.trans hv)
  refine ⟨hgood.sound.settled, fun count setup attempts cancels he hfail => ?_, hgood.sound.within⟩
  subst he
  obtain ⟨u, ok, hu, hg, hcount⟩ := allocate_good h hf hm
  obtain ⟨rfl, rfl⟩ := Prod.mk.inj (Option.some.inj (hu.symm.trans hfail))
  exact hg.empty (hcount rfl)

/-- Over the runs with a window that keeps its word, whose steps all meet their condition, the run
goes through, and in every state each buffer of the window is held or went back once, nothing is left
of a failed `allocate` and no index beyond the count was used. -/
theorem window_buffers_settled (window : Bool) (es : List Event)
    (h : Runs.Along step (fun w e => e.Faithful ∧ e.Meets w) { window } es) :
    (∃ w, Runs.play step { window } es = some w) ∧
      Runs.Along step (fun w e => ∀ w', step w e = some w' → Kept w e w') { window } es := by
  constructor
  · obtain ⟨w, hw, -⟩ := Runs.play_total (I := Good) (fun _ _ hg hp => step_good hg hp.1 hp.2)
      (good_init window) h
    exact ⟨w, hw⟩
  · refine Runs.Along.of_invariant (I := Good) (fun w e w' hg hp hw' => ?_)
      (fun _ _ hg hp => step_kept hg hp.1 hp.2) (good_init window) h
    obtain ⟨v, hv, hgood⟩ := step_good hg hp.1 hp.2
    obtain rfl := Option.some.inj (hw'.symm.trans hv)
    exact hgood

def previewEvents : List Event :=
  [.allocate 2 { minUndequeued := some 1 } (fun i => { buffer := some (7 + i) }) (fun _ => true),
    .displayBuffer 1 true (some 7), .deallocate fun _ => true]

theorem window_buffers_settled_run :
    (∃ w, Runs.play step { window := true } previewEvents = some w) ∧
      Runs.Along step (fun w e => ∀ w', step w e = some w' → Kept w e w') { window := true }
        previewEvents := by
  refine window_buffers_settled true previewEvents ⟨⟨?_, rfl, fun _ k hk _ => Or.inr ?_⟩, fun w hw => ?_⟩
  · intro i _ j hj b hb hb'
    have he : 7 + i = 7 + j := Option.some.inj (hb.trans hb'.symm)
    omega
  · obtain rfl : 1 = k := Option.some.inj hk
    exact ⟨by decide, by decide, fun _ _ => rfl, fun _ _ => ⟨Option.some_ne_none _, rfl, rfl, rfl⟩⟩
  · obtain rfl := Option.some.inj hw
    refine ⟨⟨trivial, show 1 < 2 by decide, fun _ b hb => ⟨0, show 0 < 2 by decide, hb⟩⟩, fun v hv => ?_⟩
    exact ⟨⟨trivial, fun _ _ _ => rfl⟩, fun _ _ => trivial⟩

/-- The ION device does not open: the buffer that was just dequeued is left with the object. -/
theorem buffer_left_owned :
    let e : Event := .allocate 1 { minUndequeued := some 0 } (fun _ => { buffer := some 7, ion := false })
      (fun _ => true)
    ∃ w', step {} e = some w' ∧ ¬Kept {} e w' :=
  ⟨_, rfl, fun h => absurd ((h.empty _ _ _ _ rfl rfl).1 0) (by decide)⟩

end Wt88047.Gralloc
