import Wt88047.Sensors.Completions

/-! What is left in the ring of a driver after a read. The room in the caller's buffer may end the
loop of `readEvents` before the ring is empty. -/

namespace Wt88047.Sensors

def InputEvent.Ends (e : InputEvent) : Prop := e.type = evSyn ∧ e.code = synReport

instance (e : InputEvent) : Decidable e.Ends := inferInstanceAs (Decidable (_ ∧ _))

/-- The events that a driver makes of what lies before it; `abs` is its `mAbsEventReceived`. -/
def InputKind.completeEvents (kind : InputKind) (enabled : Bool) : Bool → List InputEvent → Nat
  | _, [] => 0
  | abs, e :: es =>
    if e.type = evAbs then kind.completeEvents enabled true es
    else if e.Ends ∧ enabled ∧ (kind.needsAbs → abs) then kind.completeEvents enabled abs es + 1
    else kind.completeEvents enabled abs es

namespace InputSensor

variable {d d' : InputSensor} {outs : List HalEvent} {count : Nat}

def complete (d : InputSensor) (es : List InputEvent) : Nat :=
  d.kind.completeEvents d.mEnabled d.mAbsEventReceived es

def Ready (d : InputSensor) : Prop := d.mEnabled ∧ (d.kind.needsAbs → d.mAbsEventReceived)

theorem take_reader (e : InputEvent) (d : InputSensor) :
    (d.take e).2.mInputReader = d.mInputReader := (take_turned e d).reader

theorem take_complete (e : InputEvent) (es : List InputEvent) (d : InputSensor) :
    d.complete (e :: es) = (d.take e).1.toList.length + (d.take e).2.complete es := by
  rw [complete, InputKind.completeEvents, take]
  by_cases habs : e.type = evAbs
  · rw [if_pos habs, if_pos habs]
    simp [complete]
  rw [if_neg habs, if_neg habs]
  by_cases hends : e.Ends
  · obtain ⟨hsyn, hreport⟩ := hends
    have hsec : ¬e.code = synTimeSec := by simp [hreport, synReport, synTimeSec]
    have hnsec : ¬e.code = synTimeNsec := by simp [hreport, synReport, synTimeNsec]
    rw [if_pos hsyn, if_neg hsec, if_neg hnsec, if_pos hreport, report]
    by_cases hready : d.mEnabled = true ∧ (d.kind.needsAbs = true → d.mAbsEventReceived = true)
    · rw [if_pos hready, if_pos ⟨⟨hsyn, hreport⟩, hready⟩]
      simp [complete, Nat.add_comm]
    · rw [if_neg hready, if_neg fun h => hready h.2]
      simp [complete]
  · rw [if_neg fun h => hends h.1]
    by_cases hsyn : e.type = evSyn
    · rw [if_pos hsyn, if_neg fun hreport => hends ⟨hsyn, hreport⟩]
      split_ifs <;> simp [complete]
    · rw [if_neg hsyn]
      simp [complete]

theorem take_ready (e : InputEvent) (d : InputSensor) (h : d.Ready ∨ (d.take e).1 ≠ none) :
    (d.take e).2.Ready := by
  have ht := take_turned e d
  have hready : d.Ready := by
    rcases h with h | h
    · exact h
    · obtain ⟨out, hout⟩ := Option.ne_none_iff_exists'.mp h
      exact (ht.out out hout).2
  refine ⟨ht.same.enabled.trans hready.1, fun hneeds => ht.abs (hready.2 ?_)⟩
  rw [← ht.same.kind]
  exact hneeds

theorem complete_ready (h : d.Ready) {es : List InputEvent} (hz : d.complete es = 0) :
    ∀ e ∈ es, ¬e.Ends := by
  obtain ⟨hon, habs⟩ := h
  rw [complete, hon] at hz
  generalize d.mAbsEventReceived = abs at habs hz
  induction es generalizing abs with
  | nil => simp
  | cons e es ih =>
    intro a ha
    rw [InputKind.completeEvents] at hz
    split at hz
    · rename_i he
      rcases List.mem_cons.mp ha with rfl | ha
      · rintro ⟨hsyn, -⟩
        rw [he] at hsyn
        cases hsyn
      · exact ih true (fun _ => rfl) hz a ha
    · split at hz
      · cases hz
      · rename_i hend
        rcases List.mem_cons.mp ha with rfl | ha
        · exact fun hends => hend ⟨hends, rfl, habs⟩
        · exact ih abs habs hz a ha

theorem complete_append (es fs : List InputEvent) (d : InputSensor) :
    d.complete es ≤ d.complete (es ++ fs) := by
  simp only [complete]
  generalize d.mAbsEventReceived = abs
  induction es generalizing abs with
  | nil => exact Nat.zero_le _
  | cons e es ih =>
    simp only [List.cons_append, InputKind.completeEvents]
    split_ifs
    · exact ih true
    · exact Nat.succ_le_succ (ih abs)
    · exact ih abs

/-- What the loop of `readEvents` leaves: either nothing is left, or there was no more room. -/
structure Drained (d : InputSensor) (count : Nat) (outs : List HalEvent) (d' : InputSensor) :
    Prop where
  sound : d'.mInputReader.Sound
  room : outs.length ≤ count
  left : d'.mInputReader.contents ≠ [] → outs.length = count
  complete : ∀ more, outs.length + d'.complete (d'.mInputReader.contents ++ more) =
    d.complete (d.mInputReader.contents ++ more)
  ready : d.Ready ∨ outs ≠ [] → d'.Ready

theorem drained_stop (h : d.mInputReader.Sound)
    (hstop : d.mInputReader.contents ≠ [] → 0 = count) : d.Drained count [] d :=
  ⟨h, Nat.zero_le _, hstop, fun _ => Nat.zero_add _, fun hr => hr.resolve_right fun hn => hn rfl⟩

theorem drain_drained (h : d.mInputReader.Sound) (count turns : Nat)
    (hturns : d.mInputReader.available ≤ turns) :
    d.Drained count (d.drain turns count).1 (d.drain turns count).2 := by
  induction turns generalizing d count with
  | zero =>
    refine drained_stop h fun hc => absurd ?_ hc
    have hlen := InputEventCircularReader.length_contents (r := d.mInputReader)
    exact List.eq_nil_of_length_eq_zero (by omega)
  | succ turns ih =>
    rw [drain]
    split
    · rename_i hz
      exact drained_stop h fun _ => hz.symm
    · rename_i hcount
      rcases h.readEvent_cases with ⟨hnone, hnil⟩ | ⟨e, hsome, hcontents, hnext⟩
      · rw [hnone]
        exact drained_stop h fun hc => absurd hnil hc
      · rw [hsome]
        dsimp only
        have hreader := take_reader e d
        have hcomplete := fun es => take_complete e es d
        have hready := take_ready e d
        have hlen := InputEventCircularReader.length_contents (r := d.mInputReader)
        have hlen' := InputEventCircularReader.length_contents (r := d.mInputReader.next)
        rw [hcontents, List.length_cons] at hlen
        rcases hd : d.take e with ⟨out, d₁⟩
        rw [hd] at hreader hcomplete hready
        have hd₁ : d₁.next.mInputReader = d.mInputReader.next := by rw [next, hreader]
        have hrest := fun n => ih (d := d₁.next) (by rw [hd₁]; exact hnext) n (by rw [hd₁]; omega)
        cases out with
        | none =>
          have hr := hrest count
          refine ⟨hr.sound, hr.room, hr.left, fun more => ?_, fun hor => hr.ready ?_⟩
          · rw [hr.complete, hd₁, hcontents, List.cons_append, hcomplete]
            simp [complete, next]
          · exact hor.imp_left fun hred => hready (Or.inl hred)
        | some out =>
          have hr := hrest (count - 1)
          refine ⟨hr.sound, ?_, fun hc => ?_, fun more => ?_, fun _ => hr.ready ?_⟩
          · have hroom := hr.room
            simp only [List.length_cons]
            omega
          · have hleft := hr.left hc
            simp only [List.length_cons]
            omega
          · have hmore := hr.complete more
            rw [hd₁] at hmore
            rw [hcontents, List.cons_append, hcomplete]
            simp only [List.length_cons, Option.toList_some, List.length_nil]
            simp only [complete, next] at hmore ⊢
            omega
          · exact Or.inl (hready (Or.inr (by simp)))

structure CaughtUp (d : InputSensor) : Prop where
  sound : d.mInputReader.Sound
  events : ∀ e ∈ d.mInputReader.contents, ¬e.Ends

theorem CaughtUp.complete (h : d.CaughtUp) : d.complete d.mInputReader.contents = 0 := by
  have hevents := h.events
  simp only [InputSensor.complete]
  generalize d.mInputReader.contents = es at hevents
  generalize d.mAbsEventReceived = abs
  induction es generalizing abs with
  | nil => rfl
  | cons e es ih =>
    have hrest := fun abs => ih (fun a ha => hevents a (List.mem_cons_of_mem _ ha)) abs
    rw [InputKind.completeEvents]
    split
    · exact hrest true
    · rw [if_neg fun he => hevents e (List.mem_cons_self ..) he.1]
      exact hrest abs

theorem CaughtUp.of_reader (h : d.CaughtUp) (he : d'.mInputReader = d.mInputReader) :
    d'.CaughtUp :=
  ⟨he ▸ h.sound, he ▸ h.events⟩

def given : List ReadResult → List InputEvent
  | [] => []
  | .events es :: reads => es ++ given reads
  | _ :: reads => given reads

theorem fill_given {r r' : InputEventCircularReader} {result : ReadResult} {n : Int} (h : r.Sound)
    (hf : r.fill result = some (n, r')) : r'.Sound ∧ (n ≤ 0 → r'.contents = r.contents) ∧
      ∀ reads, r'.contents ++ given reads = r.contents ++ given (result :: reads) := by
  cases result with
  | failed errno =>
    obtain ⟨-, rfl⟩ := Prod.mk.inj (Option.some.inj hf)
    exact ⟨h, fun _ => rfl, fun _ => rfl⟩
  | ragged =>
    obtain ⟨-, rfl⟩ := Prod.mk.inj (Option.some.inj hf)
    exact ⟨h, fun _ => rfl, fun _ => rfl⟩
  | events es =>
    by_cases hle : es.length ≤ r.mFreeSpace
    · obtain ⟨reader, hfill, hsound, hcontents, -⟩ := h.fill_events hle
      rw [hfill] at hf
      obtain ⟨rfl, rfl⟩ := Prod.mk.inj (Option.some.inj hf)
      refine ⟨hsound, fun hz => ?_, fun reads => by rw [hcontents, given, List.append_assoc]⟩
      rw [hcontents, List.eq_nil_of_length_eq_zero (by omega : es.length = 0), List.append_nil]
    · rw [InputEventCircularReader.fill, if_neg hle] at hf
      cases hf

theorem Drained.caughtUp (h : d.Drained count outs d') (hc : count ≠ 0) {more : List InputEvent}
    (hfit : d.complete (d.mInputReader.contents ++ more) ≤ count) : d'.CaughtUp := by
  refine ⟨h.sound, ?_⟩
  by_cases hnil : d'.mInputReader.contents = []
  · simp [hnil]
  · have hlen := h.left hnil
    have hmore := h.complete more
    have hle := complete_append d'.mInputReader.contents more d'
    have hready : d'.Ready := h.ready (Or.inr fun houts => by
      rw [houts] at hlen
      exact hc hlen.symm)
    exact complete_ready hready (by omega)

theorem fetch_caughtUp {reads : List ReadResult} (hs : d.mInputReader.Sound) (hc : count ≠ 0)
    (hfit : d.complete (d.mInputReader.contents ++ given reads) ≤ count)
    (h : d.fetch count reads = some (outs, d')) : d'.CaughtUp := by
  induction reads generalizing d with
  | nil =>
    have hdrained := drain_drained hs count _ (le_refl _)
    rcases fetch_cases h with hd | ⟨_, _, _, _, _, -, hr, -⟩
    · rw [hd] at hdrained
      exact hdrained.caughtUp hc hfit
    · cases hr
  | cons result reads ih =>
    have hdrained := drain_drained hs count _ (le_refl _)
    rcases fetch_cases h with hd | ⟨d₁, _, _, n, reader, hd, hr, hfill, hend⟩
    · rw [hd] at hdrained
      exact hdrained.caughtUp hc hfit
    · rw [hd] at hdrained
      obtain ⟨rfl, rfl⟩ := List.cons.inj hr
      have hnil : d₁.mInputReader.contents = [] := by
        by_contra hne
        exact hc (hdrained.left hne).symm
      obtain ⟨hsound, hzero, hgiven⟩ := fill_given hdrained.sound hfill
      rcases hend with ⟨hn, -, rfl⟩ | ⟨-, hrest⟩
      · have hcontents := (hzero (by omega)).trans hnil
        exact ⟨hsound, by simp [hcontents]⟩
      · refine ih (d := { d₁ with mInputReader := reader }) hsound ?_ hrest
        have hmore := hdrained.complete (given (result :: reads))
        have hle : d₁.complete (reader.contents ++ given reads) ≤ count := by
          rw [hgiven reads]
          simp only [List.length_nil, Nat.zero_add] at hmore
          exact hmore.trans_le hfit
        exact hle

theorem readEvents_caughtUp {count now : Int} {reads : List ReadResult}
    {r : Except Int (List HalEvent)} (h : d.CaughtUp)
    (hfit : 1 ≤ count → d.complete (d.mInputReader.contents ++ given reads) ≤ count.toNat)
    (hr : d.readEvents count now reads = some (r, d')) : d'.CaughtUp := by
  rw [readEvents.eq_def] at hr
  have hfetched : ∀ (d₁ : InputSensor) (reads : List ReadResult), ¬count < 1 →
      d₁.mInputReader.Sound →
      d₁.complete (d₁.mInputReader.contents ++ given reads) ≤ count.toNat →
      ((d₁.fetch count.toNat reads).map fun f => (Except.ok f.1, f.2)) = some (r, d') →
      d'.CaughtUp := by
    intro d₁ reads hc hs hfit hf
    obtain ⟨⟨outs, d₂⟩, hfetch, he⟩ := Option.map_eq_some_iff.mp hf
    obtain ⟨-, rfl⟩ := Prod.mk.inj he
    exact fetch_caughtUp hs (by omega) hfit hfetch
  by_cases hc : count < 1
  · rw [if_pos hc] at hr
    obtain ⟨-, rfl⟩ := Prod.mk.inj (Option.some.inj hr)
    exact h
  have hfit := hfit (by omega)
  rw [if_neg hc] at hr
  by_cases hevent : d.mHasPendingEvent = true
  · rw [if_pos hevent] at hr
    obtain ⟨-, rfl⟩ := Prod.mk.inj (Option.some.inj hr)
    exact h.of_reader rfl
  rw [if_neg hevent] at hr
  by_cases hmeta : d.mHasPendingMetadata ≠ 0
  · rw [if_pos hmeta] at hr
    obtain ⟨-, rfl⟩ := Prod.mk.inj (Option.some.inj hr)
    exact h.of_reader rfl
  rw [if_neg hmeta] at hr
  by_cases hfull : d.mInputReader.mFreeSpace = 0
  · rw [if_pos hfull] at hr
    exact hfetched d reads hc h.sound hfit hr
  rw [if_neg hfull] at hr
  cases reads with
  | nil => cases hr
  | cons result reads =>
    dsimp only at hr
    cases hf : d.mInputReader.fill result with
    | none =>
      rw [hf] at hr
      cases hr
    | some f =>
      obtain ⟨n, reader⟩ := f
      rw [hf] at hr
      dsimp only at hr
      obtain ⟨hsound, hzero, hgiven⟩ := fill_given h.sound hf
      by_cases hn : n < 0
      · rw [if_pos hn] at hr
        obtain ⟨-, rfl⟩ := Prod.mk.inj (Option.some.inj hr)
        have hcontents := hzero (by omega)
        exact ⟨hsound, fun e he => h.events e (hcontents ▸ he)⟩
      · rw [if_neg hn] at hr
        refine hfetched { d with mInputReader := reader } reads hc hsound ?_ hr
        have hle : d.complete (reader.contents ++ given reads) ≤ count.toNat := by
          rw [hgiven reads]
          exact hfit
        exact hle

theorem readEvents_error {count now : Int} {reads : List ReadResult} {err : Int}
    (h : d.readEvents count now reads = some (.error err, d')) : d' = d := by
  rw [readEvents.eq_def] at h
  have hfetched : ∀ (d₁ : InputSensor) (reads : List ReadResult),
      ((d₁.fetch count.toNat reads).map fun f => (Except.ok f.1, f.2)) = some (.error err, d') →
      d' = d := by
    intro d₁ reads hf
    obtain ⟨_, -, he⟩ := Option.map_eq_some_iff.mp hf
    cases he
  split at h
  · exact (Prod.mk.inj (Option.some.inj h)).2.symm
  split at h
  · cases h
  split at h
  · cases h
  split at h
  · exact hfetched d reads h
  cases reads with
  | nil => cases h
  | cons result reads =>
    cases result with
    | failed errno =>
      simp only [InputEventCircularReader.fill] at h
      split at h
      · exact (Prod.mk.inj (Option.some.inj h)).2.symm
      · exact hfetched _ reads h
    | ragged =>
      simp only [InputEventCircularReader.fill] at h
      split at h
      · exact (Prod.mk.inj (Option.some.inj h)).2.symm
      · exact hfetched _ reads h
    | events es =>
      simp only [InputEventCircularReader.fill] at h
      by_cases hle : es.length ≤ d.mInputReader.mFreeSpace
      · rw [if_pos hle] at h
        dsimp only at h
        rw [if_neg (by omega)] at h
        exact hfetched _ reads h
      · rw [if_neg hle] at h
        cases h

end InputSensor

def SensorDriver.CaughtUp : SensorDriver → Prop
  | .input d => d.CaughtUp
  | .virtual _ => True

theorem SensorDriver.CaughtUp.enable {d : SensorDriver} (h : d.CaughtUp) (en : Int)
    (opened : Option Int) : (d.enable en opened).CaughtUp := by
  cases d with
  | input d =>
    refine InputSensor.CaughtUp.of_reader h ?_
    simp only [InputSensor.enable]
    split
    · split <;> rfl
    · split <;> rfl
  | virtual v => trivial

namespace SensorsHal

variable {s s' : SensorsHal} {x : Nat} {d : InputSensor} {count : Int}
  {ws : List SensorDriver.Reads} {r : Except Int (List HalEvent)}

theorem readDriver_input (hd : s.driver x = .input d) (h : s.readDriver x count ws = some (r, s')) :
    ∃ w ∈ ws, ∃ d', d.readEvents count w.now w.reads = some (r, d') ∧ s'.driver x = .input d' := by
  induction ws generalizing s with
  | nil => cases h
  | cons w ws ih =>
    rw [readDriver, hd] at h
    simp only [SensorDriver.readEvents] at h
    cases hr : d.readEvents count w.now w.reads with
    | none =>
      rw [hr] at h
      cases h
    | some f =>
      obtain ⟨r₁, d₁⟩ := f
      rw [hr] at h
      simp only [Option.map_some] at h
      have hend : some (r₁, { s with driver := Function.update s.driver x (.input d₁) }) =
          some (r, s') → ∃ w' ∈ w :: ws, ∃ d', d.readEvents count w'.now w'.reads = some (r, d') ∧
            s'.driver x = .input d' := by
        intro he
        obtain ⟨rfl, rfl⟩ := Prod.mk.inj (Option.some.inj he)
        exact ⟨w, List.mem_cons_self .., d₁, hr, Function.update_self ..⟩
      cases r₁ with
      | ok es => exact hend h
      | error err =>
        dsimp only at h
        split at h
        · obtain rfl := InputSensor.readEvents_error hr
          obtain ⟨w', hw', hrest⟩ := ih (Function.update_self ..) h
          exact ⟨w', List.mem_cons_of_mem _ hw', hrest⟩
        · exact hend h

theorem readDriver_caughtUp (h : (s.driver x).CaughtUp)
    (hfit : ∀ d, s.driver x = .input d → 1 ≤ count → ∀ w ∈ ws,
      d.complete (d.mInputReader.contents ++ InputSensor.given w.reads) ≤ count.toNat)
    (hr : s.readDriver x count ws = some (r, s')) : (s'.driver x).CaughtUp := by
  cases hd : s.driver x with
  | input d =>
    rw [hd] at h
    obtain ⟨w, hw, d', hread, hd'⟩ := readDriver_input hd hr
    rw [hd']
    exact InputSensor.readEvents_caughtUp h (fun hc => hfit d hd hc w hw) hread
  | virtual v =>
    have hvirtual : ∃ v', s'.driver x = .virtual v' := by
      clear h hfit
      induction ws generalizing s v with
      | nil => cases hr
      | cons w ws ih =>
        rw [readDriver, hd] at hr
        simp only [SensorDriver.readEvents] at hr
        split at hr
        · split at hr
          · exact ih hr _ (Function.update_self ..)
          · obtain ⟨-, rfl⟩ := Prod.mk.inj (Option.some.inj hr)
            exact ⟨_, Function.update_self ..⟩
        · obtain ⟨-, rfl⟩ := Prod.mk.inj (Option.some.inj hr)
          exact ⟨_, Function.update_self ..⟩
    obtain ⟨v', hv'⟩ := hvirtual
    rw [hv']
    trivial

end SensorsHal

end Wt88047.Sensors
