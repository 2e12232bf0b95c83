import Wt88047.QCamera.PostProcThread

/-! Whole runs of the post-processor, with the stops in them. -/

namespace Wt88047.PostProc

open Ledger

variable {w v : World} {e : Event}

theorem Inv.setting (h : Inv w) (inited active : Bool) (channels : List Nat)
    (reproc dual : Option ReprocChannel) :
    Inv { w with
      inited := inited, active := active, channels := channels, reproc := reproc, dual := dual } :=
  { h with }

theorem start_setting (source : Nat) (reproc dual : Option (Option Nat)) (w : World) :
    ∃ r d, (start source reproc dual w).1 = { w with reproc := r, dual := d } := by
  unfold start
  split
  · exact ⟨w.reproc, w.dual, rfl⟩
  · cases reproc with
    | none =>
      dsimp only
      rw [if_neg nofun]
      split
      · exact ⟨_, _, rfl⟩
      · exact ⟨_, _, rfl⟩
    | some handle =>
      dsimp only
      split
      · exact ⟨_, _, rfl⟩
      split
      · exact ⟨_, _, rfl⟩
      · exact ⟨_, _, rfl⟩

theorem notified_inv {f : SuperBuf} {rest : List SuperBuf} (h : Inv w) (hq : w.dataQ = f :: rest) :
    Inv (releaseNotifyData (some f) { w with dataQ := rest }) := by
  have hd := giveBack_disposes w.offline w.found f w.ledger
  refine h.move { h.toJobs with } rfl (List.Subset.refl _) hd fun x => ?_
  rw [World.count_held, World.count_held, hq]
  simp only [releaseNotifyData, World.onLedger, List.map_cons, List.count_cons, List.count_nil]
  omega

theorem flushNotified_inv (h : Inv w) :
    Inv { w with
      dataQ := []
      ledger := w.dataQ.foldl (fun g f => g.giveBack w.found f) w.ledger } := by
  have hd := giveBackAll_disposes w.offline w.found w.dataQ w.ledger
  refine h.move { h.toJobs with } rfl (List.Subset.refl _) hd fun x => ?_
  rw [World.count_held, World.count_held]
  simp only [List.map_nil, List.count_nil]
  omega

theorem stop_inv (told : Bool) (h : Inv w) : Inv (stop told w) :=
  h.move { h.toJobs with encoding := nofun } rfl (List.Subset.refl _) (Disposes.refl _ _)
    fun _ => rfl

theorem step_inv (h : Inv w) (hs : Sound w e) (hv : step w e = some v) : Inv v := by
  cases e with
  | init =>
    obtain ⟨-, ⟨⟩⟩ := Option.ite_none_left_eq_some.mp hv
    exact h.setting true false w.channels w.reproc w.dual
  | deinit =>
    obtain ⟨-, ⟨⟩⟩ := Option.ite_none_right_eq_some.mp hv
    exact h.setting false w.active w.channels w.reproc w.dual
  | addChannel chId =>
    obtain rfl := Option.some.inj hv
    exact h.setting w.inited w.active _ w.reproc w.dual
  | delChannel chId =>
    obtain rfl := Option.some.inj hv
    exact h.setting w.inited w.active _ w.reproc w.dual
  | start source reproc dual =>
    obtain rfl := Option.some.inj hv
    obtain ⟨r, d, hr⟩ := start_setting source reproc dual w
    rw [hr]
    exact h.setting w.inited w.active w.channels r d
  | processData chId d =>
    obtain rfl := Option.some.inj hv
    exact processData_inv h hs
  | processRawData chId node =>
    obtain rfl := Option.some.inj hv
    obtain rfl := hs
    exact processRawData_inv h
  | processPPData chId p =>
    obtain rfl := Option.some.inj hv
    exact processPPData_inv h hs
  | jpegEvt e =>
    obtain rfl := Option.some.inj hv
    exact processJpegEvt_inv h hs
  | saveNext =>
    obtain rfl := Option.some.inj hv
    exact saveNext_inv h
  | notified =>
    cases hq : w.dataQ with
    | nil =>
      rw [step, hq] at hv
      cases hv
    | cons f rest =>
      rw [step, hq] at hv
      obtain rfl := Option.some.inj hv
      exact notified_inv h hq
  | flushNotified =>
    obtain rfl := Option.some.inj hv
    exact flushNotified_inv h
  | startProc =>
    obtain ⟨-, ⟨⟩⟩ := Option.ite_none_right_eq_some.mp hv
    exact h.setting w.inited true w.channels w.reproc w.dual
  | nextJpeg node =>
    obtain ⟨-, ⟨⟩⟩ := Option.ite_none_right_eq_some.mp hv
    obtain rfl := hs
    exact nextJpeg_inv h
  | encoded started =>
    simp only [step] at hv
    split at hv
    · next job hpc =>
      obtain rfl := Option.some.inj hv
      exact encoded_inv h hpc
    · cases hv
  | nextRaw o =>
    obtain ⟨-, ⟨⟩⟩ := Option.ite_none_right_eq_some.mp hv
    exact nextRaw_inv h hs
  | nextPP o =>
    obtain ⟨-, ⟨⟩⟩ := Option.ite_none_right_eq_some.mp hv
    exact nextPP_inv h hs
  | reprocessed ok =>
    simp only [step] at hv
    split at hv
    · next job hpc =>
      obtain rfl := Option.some.inj hv
      apply reprocessed_inv h
      rcases hs with hok | hlast
      · exact Or.inl hok
      · rw [hpc] at hlast
        obtain ⟨j, hj, hjob⟩ := Option.map_eq_some_iff.mp hlast
        obtain rfl := Pc.reprocessing.inj hjob
        exact Or.inr hj
    · cases hv
  | stop told =>
    obtain ⟨-, ⟨⟩⟩ := Option.ite_none_right_eq_some.mp hv
    exact stop_inv told h
  | stopNext =>
    simp only [step] at hv
    split at hv
    · next stage hpc =>
      obtain rfl := Option.some.inj hv
      exact stopNext_inv h hpc
    · cases hv

theorem run_inv {es : List Event} (hs : Runs.Along step Sound {} es)
    (h : Runs.play step {} es = some w) : Inv w :=
  Runs.play_invariant (fun _ _ _ hi hs hv => step_inv hi hs hv) inv_init hs h

namespace World

structure Empty (w : World) : Prop where
  save : w.inputSaveQ = []
  ongoingJpeg : w.ongoingJpegQ = []
  ongoingPP : w.ongoingPPQ = []
  inputJpeg : w.inputJpegQ = []
  inputPP : w.inputPPQ = []
  inputRaw : w.inputRawQ = []

end World

structure Drained (w : World) : Prop where
  stopping : w.pc = .idle ∨ ∃ stage, w.pc = .stopping stage
  save : w.pc ≠ .stopping .save → w.inputSaveQ = []
  ongoingJpeg : w.pc ≠ .stopping .save → w.pc ≠ .stopping .abort → w.ongoingJpegQ = []
  ongoingPP : w.pc ∈ [.stopping .inputJpeg, .stopping .inputPP, .stopping .inputRaw, .idle] →
    w.ongoingPPQ = []
  inputJpeg : w.pc ∈ [.stopping .inputPP, .stopping .inputRaw, .idle] → w.inputJpegQ = []
  inputPP : w.pc ∈ [.stopping .inputRaw, .idle] → w.inputPPQ = []
  inputRaw : w.pc = .idle → w.inputRawQ = []

/-- The events that bring no frame and no event data, by which a stop may be interrupted. -/
def Event.Quiet : Event → Bool
  | .addChannel _ => true
  | .delChannel _ => true
  | .start .. => true
  | .jpegEvt e => !e.save
  | .saveNext => true
  | .notified => true
  | .flushNotified => true
  | .stopNext => true
  | _ => false

theorem Drained.mono (h : Drained w) (hpc : v.pc = w.pc)
    (hsave : w.inputSaveQ = [] → v.inputSaveQ = [])
    (hjpeg : w.ongoingJpegQ = [] → v.ongoingJpegQ = []) (hpp : v.ongoingPPQ = w.ongoingPPQ)
    (hij : v.inputJpegQ = w.inputJpegQ) (hip : v.inputPPQ = w.inputPPQ)
    (hraw : v.inputRawQ = w.inputRawQ) : Drained v where
  stopping := by rw [hpc]; exact h.stopping
  save := by rw [hpc]; exact fun hn => hsave (h.save hn)
  ongoingJpeg := by rw [hpc]; exact fun hn hm => hjpeg (h.ongoingJpeg hn hm)
  ongoingPP := by rw [hpc, hpp]; exact h.ongoingPP
  inputJpeg := by rw [hpc, hij]; exact h.inputJpeg
  inputPP := by rw [hpc, hip]; exact h.inputPP
  inputRaw := by rw [hpc, hraw]; exact h.inputRaw

theorem Drained.next {stage : Stage} (h : Drained w) (hpc : w.pc = .stopping stage) :
    Drained (stopNext stage w) := by
  cases stage with
  | save =>
    unfold stopNext
    dsimp only
    split
    · next hq =>
      exact ⟨Or.inr ⟨_, rfl⟩, fun _ => hq, fun _ hn => absurd rfl hn, nofun, nofun, nofun, nofun⟩
    · next jobId rest hq =>
      have hkept : (releaseSaveJobData jobId { w with inputSaveQ := rest }).pc = .stopping .save := by
        unfold releaseSaveJobData
        split
        · exact hpc
        split
        · exact hpc
        · exact hpc
      constructor
      · exact Or.inr ⟨_, hkept⟩
      all_goals rw [hkept]
      · exact fun hn => absurd rfl hn
      · exact fun hn => absurd rfl hn
      · exact nofun
      · exact nofun
      · exact nofun
      · exact nofun
  | abort =>
    have hsave := h.save (by rw [hpc]; exact nofun)
    unfold stopNext
    dsimp only
    split
    · next hq =>
      exact ⟨Or.inr ⟨_, rfl⟩, fun _ => hsave, fun _ _ => hq, nofun, nofun, nofun, nofun⟩
    · next job rest hq =>
      constructor
      · exact Or.inr ⟨_, hpc⟩
      · exact fun _ => hsave
      all_goals dsimp only
      all_goals rw [hpc]
      · exact fun _ hn => absurd rfl hn
      · exact nofun
      · exact nofun
      · exact nofun
      · exact nofun
  | ongoingPP =>
    have hsave := h.save (by rw [hpc]; exact nofun)
    have hjpeg := h.ongoingJpeg (by rw [hpc]; exact nofun) (by rw [hpc]; exact nofun)
    exact ⟨Or.inr ⟨_, rfl⟩, fun _ => hsave, fun _ _ => hjpeg, fun _ => rfl, nofun, nofun, nofun⟩
  | inputJpeg =>
    have hsave := h.save (by rw [hpc]; exact nofun)
    have hjpeg := h.ongoingJpeg (by rw [hpc]; exact nofun) (by rw [hpc]; exact nofun)
    have hpp := h.ongoingPP (by rw [hpc]; decide)
    exact ⟨Or.inr ⟨_, rfl⟩, fun _ => hsave, fun _ _ => hjpeg, fun _ => hpp, fun _ => rfl, nofun,
      nofun⟩
  | inputPP =>
    have hsave := h.save (by rw [hpc]; exact nofun)
    have hjpeg := h.ongoingJpeg (by rw [hpc]; exact nofun) (by rw [hpc]; exact nofun)
    have hpp := h.ongoingPP (by rw [hpc]; decide)
    have hij := h.inputJpeg (by rw [hpc]; decide)
    exact ⟨Or.inr ⟨_, rfl⟩, fun _ => hsave, fun _ _ => hjpeg, fun _ => hpp, fun _ => hij,
      fun _ => rfl, nofun⟩
  | inputRaw =>
    have hsave := h.save (by rw [hpc]; exact nofun)
    have hjpeg := h.ongoingJpeg (by rw [hpc]; exact nofun) (by rw [hpc]; exact nofun)
    have hpp := h.ongoingPP (by rw [hpc]; decide)
    have hij := h.inputJpeg (by rw [hpc]; decide)
    have hip := h.inputPP (by rw [hpc]; decide)
    exact ⟨Or.inl rfl, fun _ => hsave, fun _ _ => hjpeg, fun _ => hpp, fun _ => hij, fun _ => hip,
      fun _ => rfl⟩

theorem Drained.flushJob (h : Drained w) (jobId : Nat) : Drained (PostProc.flushJob jobId w) := by
  refine h.mono rfl id (fun hq => ?_) rfl rfl rfl rfl
  show w.ongoingJpegQ.filter _ = []
  rw [hq, List.filter_nil]

theorem Drained.step (h : Drained w) (he : e.Quiet = true) (hv : PostProc.step w e = some v) :
    Drained v := by
  cases e with
  | addChannel chId =>
    obtain rfl := Option.some.inj hv
    exact h.mono rfl id id rfl rfl rfl rfl
  | delChannel chId =>
    obtain rfl := Option.some.inj hv
    exact h.mono rfl id id rfl rfl rfl rfl
  | start source reproc dual =>
    obtain rfl := Option.some.inj hv
    obtain ⟨r, d, hr⟩ := start_setting source reproc dual w
    rw [hr]
    exact h.mono rfl id id rfl rfl rfl rfl
  | jpegEvt e =>
    obtain rfl := Option.some.inj hv
    have hsave : e.save = false := by simpa [Event.Quiet] using he
    unfold processJpegEvt
    rw [hsave]
    split
    · exact h
    · exact h.flushJob e.jobId
  | saveNext =>
    obtain rfl := Option.some.inj hv
    unfold saveNext
    split
    · exact h
    · next jobId rest hq =>
      have hrest : Drained { w with inputSaveQ := rest } :=
        h.mono rfl (fun hnil => by rw [hq] at hnil; cases hnil) id rfl rfl rfl rfl
      exact hrest.flushJob jobId
  | notified =>
    simp only [PostProc.step] at hv
    split at hv
    · cases hv
    · obtain rfl := Option.some.inj hv
      exact h.mono rfl id id rfl rfl rfl rfl
  | flushNotified =>
    obtain rfl := Option.some.inj hv
    exact h.mono rfl id id rfl rfl rfl rfl
  | stopNext =>
    simp only [PostProc.step] at hv
    split at hv
    · next stage hpc =>
      obtain rfl := Option.some.inj hv
      exact h.next hpc
    · cases hv
  | _ => cases he

theorem stopped_empty {u : World} {mid : List Event} (hu : Runs.play step (stop true u) mid = some w)
    (hmid : ∀ e ∈ mid, e.Quiet = true) (hpc : w.pc = .idle) : w.Empty := by
  have hbegin : Drained (stop true u) :=
    ⟨Or.inr ⟨_, rfl⟩, fun hn => absurd rfl hn, fun hn => absurd rfl hn, nofun, nofun, nofun, nofun⟩
  have hend : Drained w :=
    Runs.play_invariant (P := fun _ e => e.Quiet = true)
      (fun _ _ _ hi hq hv => hi.step hq hv) hbegin (Runs.Along.of_forall (fun e he _ => hmid e he) _) hu
  exact {
    save := hend.save (by rw [hpc]; exact nofun)
    ongoingJpeg := hend.ongoingJpeg (by rw [hpc]; exact nofun) (by rw [hpc]; exact nofun)
    ongoingPP := hend.ongoingPP (by rw [hpc]; decide)
    inputJpeg := hend.inputJpeg (by rw [hpc]; decide)
    inputPP := hend.inputPP (by rw [hpc]; decide)
    inputRaw := hend.inputRaw hpc }

end Wt88047.PostProc
