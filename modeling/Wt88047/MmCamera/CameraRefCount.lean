import Wt88047.MmCamera.CameraOpen

/-! The references to the cameras, over every interleaving of opens and closes. -/

namespace Wt88047.Camera

section

variable (numCam : Fin 128) (maxNumSensors : Nat)

structure Fits (c : CameraObj) : Prop where
  range : c.phase ≠ .absent → c.idx < numCam
  slot : c.phase = .inService → c.idx < maxNumSensors
  opening : c.phase = .opening → c.refCount = 1 ∧ c.opens = 0 ∧ c.closes = 0
  counted : c.phase = .inService → c.refCount = c.opens - c.closes ∧ 0 < c.refCount
  settled : c.Destroyed → c.opens = c.closes
  index : c.phase ≠ .absent → getIndexByHandler c.myHdl = c.idx

structure OpenInv (w : World) : Prop where
  fits : ∀ o, Fits numCam maxNumSensors (w.obj o)
  absent : ∀ o, w.next ≤ o ↔ (w.obj o).phase = .absent
  table : ∀ i o, w.camObj i = some o ↔ (w.obj o).phase = .inService ∧ (w.obj o).idx = i
  unique : ∀ o p, (w.obj o).Live → (w.obj p).Live → (w.obj o).idx = (w.obj p).idx → o = p
  handles : ∀ o p, (w.obj o).phase = .inService → p < w.next → p ≠ o →
    (w.obj p).idx = (w.obj o).idx → (w.obj p).myHdl ≠ (w.obj o).myHdl
  pending : ∀ o ∈ w.reopened, (w.obj o).phase = .inService
  answered : ∀ r ∈ w.returned, r.2 = some (w.obj r.1).myHdl ∧
    ((w.obj r.1).phase = .inService ∨ (w.obj r.1).Destroyed)

/-- No camera is made while another object of its index is being opened, an object that goes into
service has a handle no other object of its index had, and no close takes the last reference
while an open that raised the count is still to return. -/
def Matched (w : World) : Event → Prop
  | .openBegin idx malloc => idx < numCam → w.camObj idx = none → malloc = true →
      ∀ p < w.next, (w.obj p).phase = .opening → (w.obj p).idx ≠ idx
  | .openEnd o ok => opened maxNumSensors (w.obj o).idx ok = true →
      ∀ p < w.next, p ≠ o → (w.obj p).idx = (w.obj o).idx → (w.obj p).myHdl ≠ (w.obj o).myHdl
  | .closeBegin handle => ∀ o ∈ getCameraByHandler maxNumSensors w handle,
      (w.obj o).refCount = 1 → o ∉ w.reopened
  | _ => True

instance (w : World) (e : Event) : Decidable (Matched numCam maxNumSensors w e) :=
  match e with
  | .openBegin idx malloc => inferInstanceAs (Decidable (idx < numCam → w.camObj idx = none →
      malloc = true → ∀ p < w.next, (w.obj p).phase = .opening → (w.obj p).idx ≠ idx))
  | .openEnd o ok => inferInstanceAs (Decidable (opened maxNumSensors (w.obj o).idx ok = true →
      ∀ p < w.next, p ≠ o → (w.obj p).idx = (w.obj o).idx → (w.obj p).myHdl ≠ (w.obj o).myHdl))
  | .closeBegin handle => inferInstanceAs (Decidable (∀ o ∈ getCameraByHandler maxNumSensors w handle,
      (w.obj o).refCount = 1 → o ∉ w.reopened))
  | .openReturn _ | .closeEnd _ | .generateHandler _ => isTrue trivial

end

section

variable {numCam : Fin 128} {maxNumSensors : Nat} {w w' : World} {o : Nat} {c : CameraObj}

theorem getCameraByHandler_eq_some {handle : Nat} :
    getCameraByHandler maxNumSensors w handle = some o ↔ getIndexByHandler handle < maxNumSensors ∧
      w.camObj (getIndexByHandler handle) = some o ∧ handle = (w.obj o).myHdl := by
  unfold getCameraByHandler
  by_cases h : getIndexByHandler handle < maxNumSensors
  · simp only [h, if_true, true_and, Option.bind_eq_some_iff, Option.ite_none_right_eq_some,
      Option.some.injEq]
    constructor
    · rintro ⟨p, hp, he, rfl⟩
      exact ⟨hp, he⟩
    · rintro ⟨hp, he⟩
      exact ⟨o, hp, he, rfl⟩
  · simp [h]

namespace Fits

theorem raise (h : Fits numCam maxNumSensors c) (hs : c.phase = .inService) :
    Fits numCam maxNumSensors { c with refCount := c.refCount + 1, opens := c.opens + 1 } := by
  obtain ⟨hc, hpos⟩ := h.counted hs
  refine ⟨h.range, h.slot, fun ho => ?_, fun _ => ?_, fun hd => ?_, h.index⟩
  · exact absurd (hs.symm.trans ho) (by decide)
  · show c.refCount + 1 = (c.opens + 1 : Nat) - (c.closes : Int) ∧ 0 < c.refCount + 1
    omega
  · rcases hd with hd | hd <;> exact absurd (hs.symm.trans hd) (by decide)

theorem lower (h : Fits numCam maxNumSensors c) (hs : c.phase = .inService) (hl : c.refCount - 1 > 0) :
    Fits numCam maxNumSensors { c with refCount := c.refCount - 1, closes := c.closes + 1 } := by
  obtain ⟨hc, hpos⟩ := h.counted hs
  refine ⟨h.range, h.slot, fun ho => ?_, fun _ => ?_, fun hd => ?_, h.index⟩
  · exact absurd (hs.symm.trans ho) (by decide)
  · show c.refCount - 1 = c.opens - ((c.closes + 1 : Nat) : Int) ∧ 0 < c.refCount - 1
    omega
  · rcases hd with hd | hd <;> exact absurd (hs.symm.trans hd) (by decide)

theorem serve (h : Fits numCam maxNumSensors c) (ho : c.phase = .opening) (hi : c.idx < maxNumSensors) :
    Fits numCam maxNumSensors { c with phase := .inService, opens := 1 } := by
  obtain ⟨hr, -, hc⟩ := h.opening ho
  have habs : c.phase ≠ .absent := by rw [ho]; decide
  refine ⟨fun _ => h.range habs, fun _ => hi, (fun h => nomatch h), fun _ => ?_, fun hd => ?_,
    fun _ => h.index habs⟩
  · show c.refCount = (1 : Nat) - (c.closes : Int) ∧ 0 < c.refCount
    rw [hr, hc]
    decide
  · rcases hd with hd | hd <;> cases hd

theorem giveUp (h : Fits numCam maxNumSensors c) (habs : c.phase ≠ .absent) {r : Int} {m : Nat}
    {f : Phase} (hf : f = .closing ∨ f = .freed) (hm : c.opens = m) :
    Fits numCam maxNumSensors { c with refCount := r, phase := f, closes := m } := by
  have hne : f ≠ .inService ∧ f ≠ .opening := by rcases hf with rfl | rfl <;> decide
  exact ⟨fun _ => h.range habs, fun h => absurd h hne.1, fun h => absurd h hne.2,
    fun h => absurd h hne.1, fun _ => hm, fun _ => h.index habs⟩

end Fits

namespace OpenInv

theorem advance (hw : OpenInv numCam maxNumSensors w) (hlive : (w.obj o).Live)
    (hfits : Fits numCam maxNumSensors c) (hidx : c.idx = (w.obj o).idx)
    (hhdl : c.myHdl = (w.obj o).myHdl) (hphase : c.phase ≠ .absent ∧ c.phase ≠ .opening)
    (hnew : c.phase = .inService → ∀ p < w.next, p ≠ o → (w.obj p).idx = (w.obj o).idx →
      (w.obj p).myHdl ≠ (w.obj o).myHdl)
    (hobj : w'.obj = (w.setObj o c).obj) (hnext : w'.next = w.next)
    (htab : ∀ i, w'.camObj i =
      if i = c.idx then (if c.phase = .inService then some o else none) else w.camObj i)
    (hpend : ∀ p ∈ w'.reopened, p ∈ w.reopened ∨ p = o)
    (hgone : o ∈ w'.reopened → c.phase = .inService)
    (hret : ∀ r ∈ w'.returned, r ∈ w.returned ∨ r = (o, some c.myHdl)) :
    OpenInv numCam maxNumSensors w' := by
  have hself : w'.obj o = c := by rw [hobj]; simp
  have hother : ∀ p, p ≠ o → w'.obj p = w.obj p := fun p hp => by rw [hobj]; simp [hp]
  have hlt : o < w.next := by
    rcases Nat.lt_or_ge o w.next with h | h
    · exact h
    · rcases hlive with hl | hl <;> rw [(hw.absent o).mp h] at hl <;> cases hl
  have hl' : ∀ p, (w'.obj p).Live → (w.obj p).Live ∧ (w'.obj p).idx = (w.obj p).idx := fun p hp => by
    by_cases hpo : p = o
    · subst hpo
      rw [hself]
      exact ⟨hlive, hidx⟩
    · rw [hother p hpo] at hp ⊢
      exact ⟨hp, rfl⟩
  have hend : c.phase = .inService ∨ c.Destroyed := by
    unfold CameraObj.Destroyed
    cases hc : c.phase with
    | absent => exact absurd hc hphase.1
    | opening => exact absurd hc hphase.2
    | inService => exact .inl rfl
    | closing => exact .inr (.inl rfl)
    | freed => exact .inr (.inr rfl)
  refine ⟨fun p => ?_, fun p => ?_, fun i p => ?_, fun p q hp hq he => ?_, fun p q hp hq hne he => ?_,
    fun p hp => ?_, fun r hr => ?_⟩
  · by_cases hpo : p = o
    · rw [hpo, hself]
      exact hfits
    · rw [hother p hpo]
      exact hw.fits p
  · rw [hnext]
    by_cases hpo : p = o
    · rw [hpo, hself]
      exact iff_of_false (by omega) hphase.1
    · rw [hother p hpo]
      exact hw.absent p
  · rw [htab]
    by_cases hi : i = c.idx
    · subst hi
      rw [if_pos rfl]
      by_cases hpo : p = o
      · subst hpo
        rw [hself]
        by_cases hs : c.phase = .inService <;> simp [hs]
      · rw [hother p hpo]
        refine iff_of_false (fun h => ?_) fun h => hpo (hw.unique p o (.inr h.1) hlive (h.2.trans hidx))
        by_cases hs : c.phase = .inService
        · rw [if_pos hs] at h
          exact hpo (Option.some.inj h).symm
        · rw [if_neg hs] at h
          cases h
    · rw [if_neg hi]
      by_cases hpo : p = o
      · subst hpo
        rw [hself]
        refine iff_of_false (fun h => hi ?_) fun h => hi h.2.symm
        rw [hidx]
        exact ((hw.table i p).mp h).2.symm
      · rw [hother p hpo]
        exact hw.table i p
  · obtain ⟨hp', hpi⟩ := hl' p hp
    obtain ⟨hq', hqi⟩ := hl' q hq
    exact hw.unique p q hp' hq' (by rw [← hpi, ← hqi, he])
  · rw [hnext] at hq
    by_cases hpo : p = o
    · subst hpo
      rw [hself] at hp he ⊢
      rw [hother q hne] at he ⊢
      rw [hhdl]
      exact hnew hp q hq hne (he.trans hidx)
    · rw [hother p hpo] at hp he ⊢
      by_cases hqo : q = o
      · subst hqo
        rw [hself] at he ⊢
        rw [hhdl]
        exact hw.handles p q hp hq hne (hidx ▸ he)
      · rw [hother q hqo] at he ⊢
        exact hw.handles p q hp hq hne he
  · by_cases hpo : p = o
    · subst hpo
      rw [hself]
      exact hgone hp
    · rw [hother p hpo]
      exact hw.pending p ((hpend p hp).resolve_right hpo)
  · rcases hret r hr with hr | rfl
    · obtain ⟨h1, h2⟩ := hw.answered r hr
      by_cases hro : r.1 = o
      · rw [hro, hself, hhdl]
        rw [hro] at h1
        exact ⟨h1, hend⟩
      · rw [hother r.1 hro]
        exact ⟨h1, h2⟩
    · rw [hself]
      exact ⟨rfl, hend⟩

theorem lt_next (hw : OpenInv numCam maxNumSensors w) (h : (w.obj o).phase ≠ .absent) :
    o < w.next := by
  have := hw.absent o
  by_contra hn
  exact h (this.mp (by omega))

theorem reopen (hw : OpenInv numCam maxNumSensors w) {idx : Nat} (h : w.camObj idx = some o) :
    OpenInv numCam maxNumSensors
      { w.setObj o { w.obj o with refCount := (w.obj o).refCount + 1, opens := (w.obj o).opens + 1 }
        with reopened := o :: w.reopened } := by
  obtain ⟨hs, hi⟩ := (hw.table idx o).mp h
  refine hw.advance (o := o) (.inr hs) ((hw.fits o).raise hs) rfl rfl ?_
    (fun _ p hp hne he => hw.handles o p hs hp hne he) rfl rfl (fun i => ?_)
    (fun p hp => (List.mem_cons.mp hp).symm) (fun _ => hs) fun r hr => .inl hr
  · exact ⟨fun h => absurd (hs.symm.trans h) (by decide), fun h => absurd (hs.symm.trans h) (by decide)⟩
  · show w.camObj i = if i = (w.obj o).idx then (if (w.obj o).phase = .inService then some o else none)
      else w.camObj i
    by_cases he : i = (w.obj o).idx
    · rw [if_pos he, if_pos hs, he, hi, h]
    · rw [if_neg he]

theorem make (hw : OpenInv numCam maxNumSensors w) {idx : Nat} (hidx : idx < numCam)
    (h : w.camObj idx = none) (hno : ∀ p < w.next, (w.obj p).phase = .opening → (w.obj p).idx ≠ idx) :
    OpenInv numCam maxNumSensors
      { w.setObj w.next
          { idx, myHdl := (generateHandler idx w.history).1, refCount := 1, phase := .opening }
        with history := (generateHandler idx w.history).2, next := w.next + 1 } := by
  have hfree : ∀ p, (w.obj p).Live → (w.obj p).idx ≠ idx := fun p hp he => by
    rcases hp with hp | hp
    · exact hno p (hw.lt_next (by rw [hp]; decide)) hp he
    · exact absurd (((hw.table idx p).mpr ⟨hp, he⟩).symm.trans h) (by simp)
  have hold : ∀ p, (w.obj p).phase ≠ .absent → p ≠ w.next := fun p hp he => by
    have := hw.lt_next hp
    omega
  refine ⟨fun p => ?_, fun p => ?_, fun i p => ?_, fun p q hp hq he => ?_, fun p q hp hq hne he => ?_,
    fun p hp => ?_, fun r hr => ?_⟩
  · by_cases hp : p = w.next
    · simp only [World.setObj_obj, hp, if_true]
      refine ⟨fun _ => hidx, (fun h => nomatch h), fun _ => ⟨rfl, rfl, rfl⟩, (fun h => nomatch h),
        fun h => ?_, fun _ => getIndexByHandler_generateHandler (by omega) _⟩
      rcases h with h | h <;> cases h
    · simp only [World.setObj_obj, hp, if_false]
      exact hw.fits p
  · by_cases hp : p = w.next
    · simp only [World.setObj_obj, hp, if_true]
      exact iff_of_false (by omega) (by decide)
    · simp only [World.setObj_obj, hp, if_false]
      rw [← hw.absent p]
      omega
  · show w.camObj i = some p ↔ _
    by_cases hp : p = w.next
    · simp only [World.setObj_obj, hp, if_true]
      refine iff_of_false (fun h => ?_) fun h => nomatch h.1
      exact hold _ (by rw [((hw.table i _).mp h).1]; decide) rfl
    · simp only [World.setObj_obj, hp, if_false]
      exact hw.table i p
  · by_cases hpn : p = w.next <;> by_cases hqn : q = w.next
    · rw [hpn, hqn]
    · simp only [World.setObj_obj, hpn, hqn, if_true, if_false] at hq he
      exact absurd he.symm (hfree q hq)
    · simp only [World.setObj_obj, hpn, hqn, if_true, if_false] at hp he
      exact absurd he (hfree p hp)
    · simp only [World.setObj_obj, hpn, hqn, if_false] at hp hq he
      exact hw.unique p q hp hq he
  · by_cases hpn : p = w.next
    · simp [hpn] at hp
    · by_cases hqn : q = w.next
      · simp only [World.setObj_obj, hpn, hqn, if_true, if_false] at hp he
        exact absurd he.symm (hfree p (.inr hp))
      · simp only [World.setObj_obj, hpn, hqn, if_false] at hp he ⊢
        exact hw.handles p q hp (by
          have : q < w.next + 1 := hq
          omega) hne he
  · have hs := hw.pending p hp
    simp only [World.setObj_obj, hold p (by rw [hs]; decide), if_false]
    exact hs
  · obtain ⟨h1, h2⟩ := hw.answered r hr
    have hne : r.1 ≠ w.next := hold r.1 (by
      rcases h2 with h2 | h2 | h2 <;> rw [h2] <;> decide)
    simp only [World.setObj_obj, hne, if_false]
    exact ⟨h1, h2⟩

theorem openEnd (hw : OpenInv numCam maxNumSensors w) {ok : Bool} (h : (w.obj o).phase = .opening)
    (hm : Matched numCam maxNumSensors w (.openEnd o ok)) :
    OpenInv numCam maxNumSensors (openEnd maxNumSensors o ok w) := by
  have hf := hw.fits o
  obtain ⟨-, ho, hc⟩ := hf.opening h
  have hnot : o ∉ w.reopened := fun hp => absurd (h.symm.trans (hw.pending o hp)) (by decide)
  unfold Camera.openEnd
  by_cases hok : opened maxNumSensors (w.obj o).idx ok = true
  · rw [if_pos hok]
    have hmax : (w.obj o).idx < maxNumSensors := by
      simp only [opened, Bool.and_eq_true, decide_eq_true_eq] at hok
      exact hok.2
    exact hw.advance (o := o) (c := { w.obj o with phase := .inService, opens := 1 }) (.inl h)
      (hf.serve h hmax) rfl rfl ⟨nofun, nofun⟩ (fun _ => hm hok) rfl rfl (fun i => rfl)
      (fun p hp => .inl hp) (fun hp => absurd hp hnot) fun r hr => (List.mem_cons.mp hr).symm
  · rw [if_neg hok]
    have hfits : Fits numCam maxNumSensors { w.obj o with phase := .freed } :=
      hf.giveUp (by rw [h]; decide) (.inr rfl) (ho.trans hc.symm)
    exact hw.advance (o := o) (c := { w.obj o with phase := .freed }) (.inl h) hfits rfl rfl
      ⟨nofun, nofun⟩ nofun rfl rfl (fun i => rfl) (fun p hp => .inl hp) (fun hp => absurd hp hnot)
      fun r hr => .inl hr

theorem openReturn (hw : OpenInv numCam maxNumSensors w) (h : o ∈ w.reopened) :
    OpenInv numCam maxNumSensors (openReturn o w) := by
  have hs := hw.pending o h
  have htab := (hw.table (w.obj o).idx o).mpr ⟨hs, rfl⟩
  refine ⟨hw.fits, hw.absent, hw.table, hw.unique, hw.handles,
    fun p hp => hw.pending p (List.mem_of_mem_erase hp), fun r hr => ?_⟩
  rcases List.mem_cons.mp hr with rfl | hr
  · rw [htab]
    exact ⟨rfl, .inl hs⟩
  · exact hw.answered r hr

theorem closeBegin (hw : OpenInv numCam maxNumSensors w) {handle : Nat}
    (hm : Matched numCam maxNumSensors w (.closeBegin handle)) :
    OpenInv numCam maxNumSensors (closeBegin maxNumSensors handle w) := by
  unfold Camera.closeBegin
  cases hg : getCameraByHandler maxNumSensors w handle with
  | none => exact hw
  | some o =>
    obtain ⟨-, htab, -⟩ := getCameraByHandler_eq_some.mp hg
    obtain ⟨hs, hi⟩ := (hw.table _ o).mp htab
    have hf := hw.fits o
    obtain ⟨hcount, hpos⟩ := hf.counted hs
    have habs : (w.obj o).phase ≠ .absent := by rw [hs]; decide
    by_cases hlast : (w.obj o).refCount - 1 > 0
    · simp only [if_pos hlast]
      refine hw.advance (o := o) (.inr hs) (hf.lower hs hlast) rfl rfl ?_
        (fun _ p hp hne he => hw.handles o p hs hp hne he) rfl rfl (fun i => ?_)
        (fun p hp => .inl hp) (fun _ => hs) fun r hr => .inl hr
      · exact ⟨habs, fun h => absurd (hs.symm.trans h) (by decide)⟩
      · show w.camObj i = if i = (w.obj o).idx then
          (if (w.obj o).phase = .inService then some o else none) else w.camObj i
        by_cases he : i = (w.obj o).idx
        · rw [if_pos he, if_pos hs, he, hi, htab]
        · rw [if_neg he]
    · simp only [if_neg hlast]
      have hnot : o ∉ w.reopened := hm o hg (by omega)
      refine hw.advance (o := o) (.inr hs) (hf.giveUp habs (.inl rfl) (by omega)) rfl rfl ⟨nofun, nofun⟩
        nofun rfl rfl (fun i => ?_) (fun p hp => .inl hp) (fun hp => absurd hp hnot)
        fun r hr => .inl hr
      show (if i = getIndexByHandler handle then none else w.camObj i) =
        if i = (w.obj o).idx then none else w.camObj i
      rw [hi]

theorem closeEnd (hw : OpenInv numCam maxNumSensors w) (h : (w.obj o).phase = .closing) :
    OpenInv numCam maxNumSensors (w.setObj o { w.obj o with phase := .freed }) := by
  have hf := hw.fits o
  have hsame : ∀ p, p = o → (w.obj p).phase = .closing := fun p hp => hp ▸ h
  refine ⟨fun p => ?_, fun p => ?_, fun i p => ?_, fun p q hp hq he => ?_, fun p q hp hq hne he => ?_,
    fun p hp => ?_, fun r hr => ?_⟩
  · by_cases hp : p = o
    · simp only [World.setObj_obj, hp, if_true]
      exact hf.giveUp (by rw [h]; decide) (.inr rfl) (hf.settled (.inl h))
    · simp only [World.setObj_obj, hp, if_false]
      exact hw.fits p
  · refine (hw.absent p).trans ?_
    by_cases hp : p = o <;> simp [hp, h]
  · refine (hw.table i p).trans ?_
    by_cases hp : p = o <;> simp [hp, h]
  · by_cases hpo : p = o <;> by_cases hqo : q = o
    · rw [hpo, hqo]
    all_goals simp only [World.setObj_obj, hpo, hqo, if_true, if_false] at hp hq he
    · rcases hp with hp | hp <;> cases hp
    · rcases hq with hq | hq <;> cases hq
    · exact hw.unique p q hp hq he
  · have hpo : p ≠ o := fun hpo => by simp [hpo] at hp
    simp only [World.setObj_obj, hpo, if_false] at hp he ⊢
    by_cases hqo : q = o
    · simp only [hqo, if_true] at he ⊢
      exact hw.handles p o hp (hqo ▸ hq) (hqo ▸ hne) he
    · simp only [hqo, if_false] at he ⊢
      exact hw.handles p q hp hq hne he
  · have hs := hw.pending p hp
    have hpo : p ≠ o := fun hpo => absurd (hs.symm.trans (hsame p hpo)) (by decide)
    simp only [World.setObj_obj, hpo, if_false]
    exact hs
  · obtain ⟨h1, h2⟩ := hw.answered r hr
    by_cases hro : r.1 = o
    · simp only [World.setObj_obj, hro, if_true]
      exact ⟨hro ▸ h1, .inr (.inr rfl)⟩
    · simp only [World.setObj_obj, hro, if_false]
      exact ⟨h1, h2⟩

theorem step (hw : OpenInv numCam maxNumSensors w) {e : Event}
    (hm : Matched numCam maxNumSensors w e) (h : step numCam maxNumSensors w e = some w') :
    OpenInv numCam maxNumSensors w' := by
  cases e with
  | openBegin idx malloc =>
    obtain rfl := Option.some.inj h
    unfold openBegin
    by_cases hidx : numCam ≤ idx
    · rw [if_pos hidx]
      exact hw
    · rw [if_neg hidx]
      cases htab : w.camObj idx with
      | some o => exact hw.reopen htab
      | none =>
        cases malloc with
        | true => exact hw.make (by omega) htab (hm (by omega) htab rfl)
        | false => exact hw
  | openEnd o ok =>
    obtain ⟨ho, he⟩ := Option.ite_none_right_eq_some.mp h
    obtain rfl := Option.some.inj he
    exact hw.openEnd ho hm
  | openReturn o =>
    obtain ⟨ho, he⟩ := Option.ite_none_right_eq_some.mp h
    obtain rfl := Option.some.inj he
    exact hw.openReturn ho
  | closeBegin handle =>
    obtain rfl := Option.some.inj h
    exact hw.closeBegin hm
  | closeEnd o =>
    obtain ⟨ho, he⟩ := Option.ite_none_right_eq_some.mp h
    obtain rfl := Option.some.inj he
    exact hw.closeEnd ho
  | generateHandler index =>
    obtain rfl := Option.some.inj h
    exact ⟨hw.fits, hw.absent, hw.table, hw.unique, hw.handles, hw.pending, hw.answered⟩

end OpenInv

theorem init_openInv : OpenInv numCam maxNumSensors {} := by
  have hdead : ∀ o, ¬(({} : World).obj o).Live ∧ ¬(({} : World).obj o).Destroyed := fun o =>
    ⟨fun h => h.elim nofun nofun, fun h => h.elim nofun nofun⟩
  refine ⟨fun o => ⟨fun h => absurd rfl h, nofun, nofun, nofun, fun h => absurd h (hdead o).2,
    fun h => absurd rfl h⟩, fun o => iff_of_true (Nat.zero_le _) rfl, fun i o => ?_, fun o p h => ?_,
    fun o p h => ?_, nofun, nofun⟩
  · exact iff_of_false nofun fun h => nomatch h.1
  · exact absurd h (hdead o).1
  · cases h

end

section

variable (numCam : Fin 128) (maxNumSensors : Nat)

structure Referenced (w : World) : Prop where
  unique : ∀ o p, (w.obj o).Live → (w.obj p).Live → (w.obj o).idx = (w.obj p).idx → o = p
  counted : ∀ o, (w.obj o).phase = .inService → (w.obj o).refCount = (w.obj o).opens - (w.obj o).closes
  claimed : ∀ o, (w.obj o).phase = .opening → (w.obj o).refCount = 1 ∧ (w.obj o).opens = 0
  answered : ∀ r ∈ w.returned, r.2 = some (w.obj r.1).myHdl
  resolved : ∀ r ∈ w.returned, (w.obj r.1).closes < (w.obj r.1).opens →
    getCameraByHandler maxNumSensors w (w.obj r.1).myHdl = some r.1
  rejected : ∀ o, (w.obj o).Destroyed → getCameraByHandler maxNumSensors w (w.obj o).myHdl = none

def LeavesFree (w : World) (e : Event) (w' : World) : Prop :=
  match e with
  | .openBegin idx malloc => idx < numCam → w.camObj idx = none → malloc = false → w' = w
  | .openEnd o ok => opened maxNumSensors (w.obj o).idx ok = false →
      w'.camObj (w.obj o).idx = none ∧ ∀ p, (w'.obj p).Live → (w'.obj p).idx ≠ (w.obj o).idx
  | _ => True

variable {numCam maxNumSensors} {w w' : World} {es : List Event}

theorem OpenInv.referenced (hw : OpenInv numCam maxNumSensors w) : Referenced maxNumSensors w := by
  have hlookup : ∀ o, (w.obj o).phase = .inService →
      getCameraByHandler maxNumSensors w (w.obj o).myHdl = some o := fun o hs => by
    have hi := (hw.fits o).index (by rw [hs]; decide)
    refine getCameraByHandler_eq_some.mpr ⟨?_, ?_, rfl⟩
    · rw [hi]
      exact (hw.fits o).slot hs
    · rw [hi]
      exact (hw.table _ o).mpr ⟨hs, rfl⟩
  refine ⟨hw.unique, fun o hs => ((hw.fits o).counted hs).1,
    fun o ho => ⟨((hw.fits o).opening ho).1, ((hw.fits o).opening ho).2.1⟩, fun r hr => (hw.answered r hr).1,
    fun r hr hopen => ?_, fun o hd => ?_⟩
  · rcases (hw.answered r hr).2 with hs | hd
    · exact hlookup r.1 hs
    · have := (hw.fits r.1).settled hd
      omega
  · cases hg : getCameraByHandler maxNumSensors w (w.obj o).myHdl with
    | none => rfl
    | some p =>
      have habs : (w.obj o).phase ≠ .absent := by rcases hd with hd | hd <;> rw [hd] <;> decide
      obtain ⟨-, htab, he⟩ := getCameraByHandler_eq_some.mp hg
      obtain ⟨hs, hi⟩ := (hw.table _ p).mp htab
      rw [(hw.fits o).index habs] at hi
      have hne : o ≠ p := fun hop => by
        subst hop
        rcases hd with hd | hd <;> exact absurd (hs.symm.trans hd) (by decide)
      exact absurd he (hw.handles p o hs (hw.lt_next habs) hne hi.symm)

theorem OpenInv.leavesFree (hw : OpenInv numCam maxNumSensors w) {e : Event}
    (h : Camera.step numCam maxNumSensors w e = some w') : LeavesFree numCam maxNumSensors w e w' := by
  cases e with
  | openBegin idx malloc =>
    intro hidx htab hm
    obtain rfl := Option.some.inj h
    unfold openBegin
    rw [if_neg (by omega), htab, hm]
    rfl
  | openEnd o ok =>
    obtain ⟨ho, he⟩ := Option.ite_none_right_eq_some.mp h
    obtain rfl := Option.some.inj he
    intro hfail
    unfold Camera.openEnd
    rw [hfail]
    refine ⟨by simp [World.setObj], fun p hp hi => ?_⟩
    by_cases hpo : p = o
    · simp only [Bool.false_eq_true, if_false, World.setObj_obj, hpo, if_true] at hp
      rcases hp with hp | hp <;> cases hp
    · simp only [Bool.false_eq_true, if_false, World.setObj_obj, hpo] at hp hi
      exact hpo (hw.unique p o hp (.inl ho) hi)
  | _ => trivial

/-- Over every interleaving that meets the condition the references are counted. -/
theorem references_counted (hc : Runs.Along (step numCam maxNumSensors) (Matched numCam maxNumSensors) {} es)
    (h : Runs.play (step numCam maxNumSensors) {} es = some w) :
    Referenced maxNumSensors w ∧ Runs.Along (step numCam maxNumSensors)
      (fun u e => ∀ v, step numCam maxNumSensors u e = some v →
        LeavesFree numCam maxNumSensors u e v) {} es := by
  have hstep : ∀ u e v, OpenInv numCam maxNumSensors u → Matched numCam maxNumSensors u e →
      step numCam maxNumSensors u e = some v → OpenInv numCam maxNumSensors v :=
    fun u e v hu hm hv => hu.step hm hv
  exact ⟨(Runs.play_invariant hstep init_openInv hc h).referenced,
    Runs.Along.of_invariant hstep (fun u e hu _ v hv => hu.leavesFree hv) init_openInv hc⟩

/-- Camera 0 is opened twice and closed twice while camera 1 fails to open. -/
theorem references_counted_twice : ∃ w,
    Runs.play (step 2 2) {} [.openBegin 0 true, .openBegin 1 true, .openEnd 0 true, .openBegin 0 true,
      .openEnd 1 false, .openReturn 0, .closeBegin 256, .closeBegin 256, .closeEnd 0] = some w ∧
    Referenced 2 w :=
  ⟨_, rfl, (@references_counted 2 2 _ [.openBegin 0 true, .openBegin 1 true, .openEnd 0 true,
    .openBegin 0 true, .openEnd 1 false, .openReturn 0, .closeBegin 256, .closeBegin 256, .closeEnd 0]
    (by decide) rfl).1⟩

/-- Two opens find the same slot empty: the camera made first is open, and its handle is not
found. -/
theorem second_open_takes_slot : ¬∀ (numCam : Fin 128) (maxNumSensors : Nat) (es : List Event) (w : World),
    Runs.play (step numCam maxNumSensors) {} es = some w → Referenced maxNumSensors w := by
  intro h
  have hs := h 1 1 [.openBegin 0 true, .openBegin 0 true, .openEnd 0 true, .openEnd 1 true] _ rfl
  exact absurd (hs.resolved (0, some 256) (by decide) (by decide)) (by decide)

end

end Wt88047.Camera
