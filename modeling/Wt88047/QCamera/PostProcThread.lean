import Wt88047.QCamera.PostProcFrames

/-! The steps of the data thread and of a stop, and the whole runs. -/

namespace Wt88047.PostProc

open Ledger

variable {w : World}

theorem dropLast_of_getLast? {α : Type} {l : List α} {a : α} (h : l.getLast? = some a) :
    l = l.dropLast ++ [a] := by
  obtain ⟨pre, rfl⟩ := List.getLast?_eq_some_iff.mp h
  rw [List.dropLast_concat]

theorem nextJpeg_inv (h : Inv w) : Inv (nextJpeg true w) := by
  unfold nextJpeg
  split
  · exact h.move { h.toJobs with encoding := nofun } rfl (List.Subset.refl _) (Disposes.refl _ _)
      fun _ => rfl
  · next job rest hq =>
    have hjob : job ∈ w.inputJpegQ := by rw [hq]; exact List.mem_cons_self ..
    have hrest : ∀ j ∈ rest, j ∈ w.inputJpegQ := by
      rw [hq]
      exact fun j hj => List.mem_cons_of_mem job hj
    split
    · refine h.move { h.toJobs with inputJpeg := ?_, ongoingJpeg := ?_, encoding := ?_, fresh := ?_ }
        rfl (List.Subset.refl _) (Disposes.refl _ _) fun f => ?_
      · exact fun j hj => h.inputJpeg j (hrest j hj)
      · intro j hj
        rcases List.mem_append.mp hj with hj | hj
        · exact h.ongoingJpeg j hj
        · rw [List.mem_singleton.mp hj]
          exact h.inputJpeg job hjob
      · rintro _ ⟨⟩
        exact ⟨h.fresh job hjob, List.getLast?_concat ..⟩
      · exact fun j hj => h.fresh j (hrest j hj)
      · rw [World.count_held, World.count_held, hq]
        simp only [enqueue_true, List.flatMap_append, List.flatMap_cons, List.flatMap_nil,
          List.count_append, List.append_nil, List.count_nil]
        omega
    · refine h.move { h.toJobs with inputJpeg := ?_, encoding := nofun, fresh := ?_ } rfl
        (List.Subset.refl _) (releaseJpegJobData_disposes (h.inputJpeg job hjob) w.found w.ledger)
        fun f => ?_
      · exact fun j hj => h.inputJpeg j (hrest j hj)
      · exact fun j hj => h.fresh j (hrest j hj)
      · rw [World.count_held, World.count_held, hq]
        simp only [List.flatMap_cons, List.count_append]
        omega

theorem encoded_inv {job : JpegJob} {started : Option Nat} (h : Inv w)
    (hpc : w.pc = .encoding job) : Inv (encoded job started w) := by
  cases started with
  | some jobId =>
    have hframes : ∀ l : List JpegJob, (l.map fun j =>
        if j.srcFrame = job.srcFrame then { j with jobId := jobId } else j).flatMap
          JpegJob.frames = l.flatMap JpegJob.frames := by
      intro l
      rw [List.flatMap_map]
      apply List.flatMap_congr
      intro j _
      split <;> rfl
    refine h.move { h.toJobs with ongoingJpeg := ?_, encoding := nofun } rfl (List.Subset.refl _)
      (Disposes.refl _ _) fun f => ?_
    · intro k hk
      obtain ⟨j, hj, rfl⟩ := List.mem_map.mp hk
      have hmarked := h.ongoingJpeg j hj
      split
      · exact hmarked
      · exact hmarked
    · rw [World.count_held, World.count_held]
      simp only [encoded, hframes, List.count_nil]
      omega
  | none =>
    have hlast := dropLast_of_getLast? (h.encoding job hpc).2
    have hjob : job ∈ w.ongoingJpegQ := by
      rw [hlast]
      exact List.mem_append_right _ (List.mem_singleton_self job)
    have hd := releaseJpegJobData_disposes (h.ongoingJpeg job hjob) w.found w.ledger
    refine h.move { h.toJobs with ongoingJpeg := ?_, encoding := nofun } rfl (List.Subset.refl _)
      hd fun f => ?_
    · exact fun j hj => h.ongoingJpeg j (List.dropLast_subset _ hj)
    · have hcount : (w.ongoingJpegQ.flatMap JpegJob.frames).count f =
          (w.ongoingJpegQ.dropLast.flatMap JpegJob.frames).count f + job.frames.count f := by
        conv_lhs => rw [hlast]
        simp only [List.flatMap_append, List.flatMap_cons, List.flatMap_nil, List.count_append,
          List.append_nil]
      rw [World.count_held, World.count_held]
      simp only [encoded]
      omega

theorem processRawImageImpl_handed {o : RawInput} {f : SuperBuf} (h : o.Handed f w) :
    ((processRawImageImpl o f w).2 ≠ .noError ∧ (processRawImageImpl o f w).1 = w) ∨
      ((processRawImageImpl o f w).2 = .noError ∧
        (processRawImageImpl o f w).1 = { w with dataQ := w.dataQ ++ [f] }) := by
  unfold processRawImageImpl
  split
  · exact Or.inl ⟨nofun, rfl⟩
  next hfound =>
  split
  · exact Or.inl ⟨nofun, rfl⟩
  next hsnapshot =>
  dsimp only
  split
  · exact Or.inl ⟨nofun, rfl⟩
  next hinfo =>
  split
  · refine Or.inl ⟨?_, rfl⟩
    dsimp only
    split <;> exact nofun
  next hmemory =>
  simp only [Bool.not_eq_eq_eq_not, Bool.not_true, Bool.not_eq_false] at hfound hsnapshot hinfo hmemory
  obtain ⟨hcompressed, hnotify⟩ := h hfound hsnapshot hinfo hmemory
  rw [hcompressed]
  cases hz : o.zslMode && w.channels.contains f.chId with
  | true =>
    rw [hz, if_pos rfl] at hnotify
    rcases hnotify with hn | hn
    · exact Or.inr (by rw [hn]; exact ⟨rfl, rfl⟩)
    · exact Or.inl (by rw [hn]; exact ⟨nofun, rfl⟩)
  | false =>
    rw [hz, if_neg (by simp)] at hnotify
    cases hn : o.notify with
    | queued => exact absurd hn hnotify
    | noArgm => exact Or.inl ⟨nofun, rfl⟩
    | refused => exact Or.inl ⟨nofun, rfl⟩
    | unsent =>
      refine Or.inl ⟨nofun, ?_⟩
      simp [sendDataNotify, releaseNotifyData]

theorem nextRaw_inv {o : RawInput} (h : Inv w) (hs : Sound w (.nextRaw o)) : Inv (nextRaw o w) := by
  unfold nextRaw
  split
  · exact h.move { h.toJobs with encoding := fun _ hpc => by cases hpc } rfl (List.Subset.refl _) (Disposes.refl _ _)
      fun _ => rfl
  · next f rest hq =>
    have hreleased : Inv (World.onLedger (fun found g => g.giveBack found f)
        { w with inputRawQ := rest, pc := .pp }) := by
      have hd := giveBack_disposes w.offline w.found f w.ledger
      refine h.move { h.toJobs with encoding := fun _ hpc => by cases hpc } rfl (List.Subset.refl _) hd fun x => ?_
      rw [World.count_held, World.count_held, hq]
      simp only [World.onLedger, List.map_cons, List.count_cons, List.count_nil]
      omega
    have hkept : Inv { w with inputRawQ := rest, pc := .pp, dataQ := w.dataQ ++ [f] } := by
      refine h.move { h.toJobs with encoding := fun _ hpc => by cases hpc } rfl (List.Subset.refl _)
        (Disposes.refl _ _) fun x => ?_
      rw [World.count_held, World.count_held, hq]
      simp only [List.map_append, List.map_cons, List.map_nil, List.count_append, List.count_cons,
        List.count_nil]
      omega
    dsimp only
    by_cases ha : w.active = true
    · have hhanded : o.Handed f { w with inputRawQ := rest, pc := .pp } :=
        hs ha f (by rw [hq]; rfl)
      rw [if_pos ha]
      rcases processRawImageImpl_handed hhanded with ⟨hr, hw⟩ | ⟨hr, hw⟩
      · rw [if_neg hr, hw]
        exact hreleased
      · rw [if_pos hr, hw]
        exact hkept
    · rw [if_neg ha, if_neg (show ¬Status.unknownError = .noError by decide)]
      exact hreleased

theorem nextPP_inv {o : PPOutcome} (h : Inv w) (hn : o.node = true) : Inv (nextPP o w) := by
  have hidle : Inv { w with pc := .idle } :=
    h.move { h.toJobs with encoding := fun _ hpc => by cases hpc } rfl (List.Subset.refl _) (Disposes.refl _ _)
      fun _ => rfl
  unfold nextPP
  split
  · exact hidle
  · next f rest hq =>
    split
    · exact hidle
    dsimp only
    split
    · have hd := giveBack_disposes w.offline w.found f w.ledger
      refine h.move { h.toJobs with encoding := fun _ hpc => by cases hpc } rfl (List.Subset.refl _) hd fun x => ?_
      rw [World.count_held, World.count_held, hq]
      simp only [World.onLedger, List.map_cons, List.count_cons, List.count_nil]
      omega
    · -- The frames that were marked before stay so.
      have hoff : w.offline ⊆ if o.regularCapture then f.id :: w.offline else w.offline := by
        split
        · exact List.subset_cons_self ..
        · exact List.Subset.refl _
      rw [hn]
      refine h.move
        { h.toJobs with ongoingPP := ?_, inputJpeg := ?_, ongoingJpeg := ?_, encoding := fun _ hpc => by cases hpc }
        rfl hoff (Disposes.refl _ _) fun x => ?_
      · intro j hj
        rcases List.mem_append.mp hj with hj | hj
        · exact fun hk => hoff (h.ongoingPP j hj hk)
        · rw [List.mem_singleton.mp hj]
          intro hk
          show f.id ∈ if o.regularCapture then f.id :: w.offline else w.offline
          rw [if_pos hk]
          exact List.mem_cons_self ..
      · exact fun j hj hk g hg => hoff (h.inputJpeg j hj hk g hg)
      · exact fun j hj hk g hg => hoff (h.ongoingJpeg j hj hk g hg)
      · rw [World.count_held, World.count_held, hq]
        simp only [enqueue_true, List.map_append, List.map_cons, List.map_nil, List.count_append,
          List.count_cons, List.count_nil]
        omega

theorem reprocessed_inv {job : PPJob} {ok : Bool} (h : Inv w)
    (hlast : ok = true ∨ w.ongoingPPQ.getLast? = some job) : Inv (reprocessed job ok w) := by
  cases ok with
  | true =>
    exact h.move { h.toJobs with encoding := nofun } rfl (List.Subset.refl _) (Disposes.refl _ _)
      fun _ => rfl
  | false =>
    have hq := dropLast_of_getLast? (hlast.resolve_left nofun)
    have hd := giveBack_disposes w.offline w.found job.srcFrame w.ledger
    refine h.move { h.toJobs with ongoingPP := ?_, encoding := nofun } rfl (List.Subset.refl _) hd
      fun x => ?_
    · exact fun j hj => h.ongoingPP j (List.dropLast_subset _ hj)
    · have hcount : (w.ongoingPPQ.map (·.srcFrame.id)).count x =
          (w.ongoingPPQ.dropLast.map (·.srcFrame.id)).count x + [job.srcFrame.id].count x := by
        conv_lhs => rw [hq]
        simp only [List.map_append, List.map_cons, List.map_nil, List.count_append]
      rw [World.count_held, World.count_held]
      simp only [reprocessed, Bool.false_eq_true, if_false]
      omega

theorem releaseSaveJobData_inv {jobId : Nat} (h : Inv w) (hpc : ∀ job, w.pc ≠ .encoding job) :
    Inv (releaseSaveJobData jobId w) := by
  unfold releaseSaveJobData
  split
  · exact h
  split
  · exact h
  · next job rest hq =>
    have hjob : job ∈ w.ongoingJpegQ := by rw [hq]; exact List.mem_cons_self ..
    refine h.move { h.toJobs with ongoingJpeg := ?_, encoding := ?_ } rfl (List.Subset.refl _)
      (releaseJpegJobData_disposes (h.ongoingJpeg job hjob) w.found w.ledger) fun x => ?_
    · exact fun j hj => h.ongoingJpeg j (by rw [hq]; exact List.mem_cons_of_mem job hj)
    · exact fun j hj => absurd hj (hpc j)
    · rw [World.count_held, World.count_held, hq]
      simp only [List.flatMap_cons, List.count_append]
      omega

theorem map_eq_flatMap {α : Type} (k : α → Nat) (l : List α) :
    l.map k = l.flatMap fun a => [k a] := by
  induction l with
  | nil => rfl
  | cons a l ih => rw [List.map_cons, List.flatMap_cons, ih]; rfl

theorem giveBackAll_disposes (offline : List Nat) (found : Nat → Bool) (l : List SuperBuf)
    (g : Ledger) :
    Disposes offline (l.map (·.id)) g (l.foldl (fun g f => g.giveBack found f) g) := by
  rw [map_eq_flatMap]
  exact foldl_disposes (fun f _ g => giveBack_disposes offline found f g) g

theorem stopNext_inv {stage : Stage} (h : Inv w) (hpc : w.pc = .stopping stage) :
    Inv (stopNext stage w) := by
  have hnot : ∀ job, w.pc ≠ .encoding job := by
    intro job he
    rw [he] at hpc
    cases hpc
  cases stage with
  | save =>
    unfold stopNext
    dsimp only
    split
    · exact h.move { h.toJobs with encoding := nofun } rfl (List.Subset.refl _)
        (Disposes.refl _ _) fun _ => rfl
    · next jobId rest hq =>
      have hrest : Inv { w with inputSaveQ := rest } := by
        refine h.move { h.toJobs with saved := ?_ } rfl (List.Subset.refl _) (Disposes.refl _ _)
          fun _ => rfl
        exact fun hz => h.saved (by rw [hq]; exact List.mem_cons_of_mem jobId hz)
      exact releaseSaveJobData_inv hrest hnot
  | abort =>
    unfold stopNext
    dsimp only
    split
    · exact h.move { h.toJobs with encoding := nofun } rfl (List.Subset.refl _)
        (Disposes.refl _ _) fun _ => rfl
    · next job rest hq =>
      have hjob : job ∈ w.ongoingJpegQ := by rw [hq]; exact List.mem_cons_self ..
      refine h.move { h.toJobs with ongoingJpeg := ?_, encoding := ?_ } rfl (List.Subset.refl _)
        (releaseJpegJobData_disposes (h.ongoingJpeg job hjob) w.found w.ledger) fun x => ?_
      · exact fun j hj => h.ongoingJpeg j (by rw [hq]; exact List.mem_cons_of_mem job hj)
      · exact fun j hj => absurd hj (hnot j)
      · rw [World.count_held, World.count_held, hq]
        simp only [List.flatMap_cons, List.count_append]
        omega
  | ongoingPP =>
    have hd : Disposes w.offline (w.ongoingPPQ.map (·.srcFrame.id)) w.ledger
        (w.ongoingPPQ.foldl (fun g j => g.releaseOngoingPPData w.found j) w.ledger) := by
      rw [map_eq_flatMap]
      exact foldl_disposes (fun j hj g => releaseSource_disposes (h.ongoingPP j hj)) w.ledger
    refine h.move { h.toJobs with ongoingPP := nofun, encoding := nofun } rfl
      (List.Subset.refl _) hd fun x => ?_
    rw [World.count_held, World.count_held]
    simp only [stopNext, List.map_nil, List.count_nil]
    omega
  | inputJpeg =>
    have hd : Disposes w.offline (w.inputJpegQ.flatMap JpegJob.frames) w.ledger
        (w.inputJpegQ.foldl (fun g j => g.releaseJpegJobData w.found j) w.ledger) :=
      foldl_disposes (fun j hj g => releaseJpegJobData_disposes (h.inputJpeg j hj) w.found g) w.ledger
    refine h.move { h.toJobs with inputJpeg := nofun, encoding := nofun, fresh := nofun } rfl
      (List.Subset.refl _) hd fun x => ?_
    rw [World.count_held, World.count_held]
    simp only [stopNext, List.flatMap_nil, List.count_nil]
    omega
  | inputPP =>
    refine h.move { h.toJobs with encoding := nofun } rfl (List.Subset.refl _)
      (giveBackAll_disposes w.offline w.found w.inputPPQ w.ledger) fun x => ?_
    rw [World.count_held, World.count_held]
    simp only [stopNext, List.map_nil, List.count_nil]
    omega
  | inputRaw =>
    refine h.move { h.toJobs with encoding := nofun } rfl (List.Subset.refl _)
      (giveBackAll_disposes w.offline w.found w.inputRawQ w.ledger) fun x => ?_
    rw [World.count_held, World.count_held]
    simp only [stopNext, List.map_nil, List.count_nil]
    omega

end Wt88047.PostProc
