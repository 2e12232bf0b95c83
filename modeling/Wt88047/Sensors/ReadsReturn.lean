import Wt88047.Sensors.CompleteEvents

/-! When a driver is done with its device node. The node does not block: it gives chunks of events,
and an error from then on. A driver that fetches a full event goes back to it after either. -/

namespace Wt88047.Sensors

/-- An event is complete among `es`; `abs` is the `mAbsEventReceived` of the driver. -/
def InputKind.Completes (kind : InputKind) (abs : Bool) (es : List InputEvent) : Prop :=
  ∃ pre e post, es = pre ++ e :: post ∧ e.Ends ∧
    (kind.needsAbs = true → abs = true ∨ ∃ a ∈ pre, a.type = evAbs)

section Completes

variable {kind : InputKind}

theorem completes_nil (abs : Bool) : ¬kind.Completes abs [] := by
  rintro ⟨pre, e, post, hnil, -⟩
  simp at hnil

theorem completes_cons {abs : Bool} {e : InputEvent} {es : List InputEvent} :
    kind.Completes abs (e :: es) ↔ (e.Ends ∧ (kind.needsAbs = true → abs = true)) ∨
      kind.Completes (abs || e.type = evAbs) es := by
  constructor
  · rintro ⟨pre, f, post, hes, hends, habs⟩
    cases pre with
    | nil =>
      obtain ⟨rfl, rfl⟩ := List.cons.inj hes
      exact Or.inl ⟨hends, fun hn => (habs hn).resolve_right (by simp)⟩
    | cons a pre =>
      obtain ⟨rfl, rfl⟩ := List.cons.inj hes
      refine Or.inr ⟨pre, f, post, rfl, hends, fun hn => ?_⟩
      rcases habs hn with h | ⟨b, hb, ht⟩
      · exact Or.inl (by simp [h])
      · rcases List.mem_cons.mp hb with rfl | hb
        · exact Or.inl (by simp [ht])
        · exact Or.inr ⟨b, hb, ht⟩
  · rintro (⟨hends, habs⟩ | ⟨pre, f, post, rfl, hends, habs⟩)
    · exact ⟨[], e, es, rfl, hends, fun hn => Or.inl (habs hn)⟩
    · refine ⟨e :: pre, f, post, rfl, hends, fun hn => ?_⟩
      rcases habs hn with h | ⟨a, ha, ht⟩
      · rcases (Bool.or_eq_true ..).mp h with h | h
        · exact Or.inl h
        · exact Or.inr ⟨e, List.mem_cons_self .., of_decide_eq_true h⟩
      · exact Or.inr ⟨a, List.mem_cons_of_mem _ ha, ht⟩

theorem InputKind.Completes.append {abs : Bool} {es : List InputEvent} (h : kind.Completes abs es)
    (fs : List InputEvent) : kind.Completes abs (es ++ fs) := by
  obtain ⟨pre, e, post, rfl, hrest⟩ := h
  exact ⟨pre, e, post ++ fs, by simp, hrest⟩

theorem completeEvents_pos (abs : Bool) (es : List InputEvent) :
    0 < kind.completeEvents true abs es ↔ kind.Completes abs es := by
  induction es generalizing abs with
  | nil => simpa [InputKind.completeEvents] using completes_nil abs
  | cons e es ih =>
    rw [InputKind.completeEvents, completes_cons]
    by_cases habs : e.type = evAbs
    · have hends : ¬e.Ends := by
        rintro ⟨hsyn, -⟩
        rw [habs] at hsyn
        cases hsyn
      simp [habs, hends, ih]
    · rw [if_neg habs]
      by_cases hready : e.Ends ∧ (kind.needsAbs = true → abs = true)
      · rw [if_pos ⟨hready.1, rfl, hready.2⟩]
        exact iff_of_true (Nat.succ_pos _) (Or.inl hready)
      · rw [if_neg fun h => hready ⟨h.1, h.2.2⟩, ih]
        simp [habs, hready]

end Completes

namespace InputSensor

variable {d d₁ : InputSensor} {count : Nat}

theorem drain_numEvents (turns count : Nat) (d : InputSensor) :
    (d.drain turns count).2.mInputReader.numEvents = d.mInputReader.numEvents := by
  induction turns generalizing count d with
  | zero => rfl
  | succ turns ih =>
    rw [drain]
    split
    · rfl
    · cases d.mInputReader.readEvent with
      | none => rfl
      | some e =>
        have hnext : (d.take e).2.next.mInputReader.numEvents = d.mInputReader.numEvents :=
          congrArg (·.numEvents) (take_reader e d)
        dsimp only
        rcases hd : d.take e with ⟨_ | out, d₁⟩
        · rw [hd] at hnext
          exact (ih count d₁.next).trans hnext
        · rw [hd] at hnext
          exact (ih (count - 1) d₁.next).trans hnext

def Wants (d : InputSensor) (count : Nat) : Prop :=
  (d.drain d.mInputReader.available count).1 = [] ∧ d.kind.fetchFull = true ∧ d.mEnabled = true

structure Emptied (d d₁ : InputSensor) : Prop where
  same : d.Same d₁
  sound : d₁.mInputReader.Sound
  contents : d₁.mInputReader.contents = []
  size : d₁.mInputReader.numEvents = d.mInputReader.numEvents
  complete : ∀ more, d₁.complete more = d.complete (d.mInputReader.contents ++ more)

theorem Emptied.free (h : d.Emptied d₁) : d₁.mInputReader.mFreeSpace = d₁.mInputReader.numEvents ∧
    d₁.mInputReader.mFreeSpace ≠ 0 := by
  have hlen := InputEventCircularReader.length_contents (r := d₁.mInputReader)
  rw [h.contents, InputEventCircularReader.available] at hlen
  have hcurr := h.sound.curr
  have hfree := h.sound.free
  simp only [List.length_nil] at hlen
  omega

theorem Wants.emptied (h : d.Wants count) (hs : d.mInputReader.Sound) (hc : count ≠ 0) :
    d.Emptied (d.drain d.mInputReader.available count).2 := by
  have hdrained := drain_drained hs count _ (le_refl _)
  have hnil : (d.drain d.mInputReader.available count).2.mInputReader.contents = [] := by
    by_contra hne
    have hleft := hdrained.left hne
    rw [h.1] at hleft
    exact hc hleft.symm
  refine ⟨(drain_same _ _ d).1, hdrained.sound, hnil, drain_numEvents _ _ d, fun more => ?_⟩
  have hmore := hdrained.complete more
  rw [h.1, hnil] at hmore
  simpa using hmore

theorem Emptied.completes (h : d.Emptied d₁) (hon : d.mEnabled = true) (more : List InputEvent) :
    d₁.kind.Completes d₁.mAbsEventReceived more ↔
      d.kind.Completes d.mAbsEventReceived (d.mInputReader.contents ++ more) := by
  have hcomplete := h.complete more
  rw [InputSensor.complete, InputSensor.complete, h.same.enabled, hon] at hcomplete
  rw [← completeEvents_pos, ← completeEvents_pos, hcomplete]

theorem wants_iff (hs : d.mInputReader.Sound) (hc : count ≠ 0) : d.Wants count ↔
    d.kind.fetchFull = true ∧ d.mEnabled = true ∧
      ¬d.kind.Completes d.mAbsEventReceived d.mInputReader.contents := by
  have hpos : d.mEnabled = true →
      (d.complete d.mInputReader.contents = 0 ↔
        ¬d.kind.Completes d.mAbsEventReceived d.mInputReader.contents) := by
    intro hon
    rw [← completeEvents_pos, InputSensor.complete, hon]
    omega
  constructor
  · intro h
    refine ⟨h.2.1, h.2.2, (hpos h.2.2).mp ?_⟩
    have hcomplete := (h.emptied hs hc).complete []
    rw [List.append_nil] at hcomplete
    rw [← hcomplete]
    rfl
  · rintro ⟨hfull, hon, hno⟩
    refine ⟨?_, hfull, hon⟩
    have hcomplete := (drain_drained hs count _ (le_refl _)).complete []
    rw [List.append_nil, List.append_nil, (hpos hon).mpr hno] at hcomplete
    exact List.eq_nil_of_length_eq_zero (by omega)

theorem fetch_returns (h : ¬d.Wants count) (reads : List ReadResult) :
    (d.fetch count reads).isSome := by
  rw [fetch.eq_def]
  have hsame := (drain_same d.mInputReader.available count d).1
  dsimp only
  rw [if_neg]
  · rfl
  · rw [hsame.kind, hsame.enabled]
    exact h

theorem Wants.fetch_nil (h : d.Wants count) (hs : d.mInputReader.Sound) (hc : count ≠ 0) :
    d.fetch count [] = none := by
  have hempty := h.emptied hs hc
  rw [fetch.eq_def]
  dsimp only
  rw [if_pos (by rw [hempty.same.kind, hempty.same.enabled]; exact h), if_neg hempty.free.2]

theorem Wants.fetch_cons (h : d.Wants count) (hs : d.mInputReader.Sound) (hc : count ≠ 0)
    {result : ReadResult} {n : Int} {reader : InputEventCircularReader}
    (hd : (d.drain d.mInputReader.available count).2 = d₁)
    (hf : d₁.mInputReader.fill result = some (n, reader)) (reads : List ReadResult) :
    d.fetch count (result :: reads) =
      if n = 0 then some ([], { d₁ with mInputReader := reader })
      else fetch count reads { d₁ with mInputReader := reader } := by
  have hempty := h.emptied hs hc
  rw [fetch.eq_def]
  dsimp only
  rw [if_pos (by rw [hempty.same.kind, hempty.same.enabled]; exact h), if_neg hempty.free.2, hd, hf]

theorem Wants.spins (h : d.Wants count) (hs : d.mInputReader.Sound) (hc : count ≠ 0) (n : Nat) :
    d.fetch count (List.replicate n (.failed 11)) = none := by
  induction n generalizing d with
  | zero => exact h.fetch_nil hs hc
  | succ n ih =>
    have hempty := h.emptied hs hc
    rw [List.replicate_succ, h.fetch_cons hs hc rfl rfl, if_neg (by decide)]
    refine ih ?_ hempty.sound
    refine (wants_iff hempty.sound hc).mpr ⟨?_, ?_, ?_⟩
    · rw [hempty.same.kind]
      exact h.2.1
    · rw [hempty.same.enabled]
      exact h.2.2
    · rw [hempty.contents]
      exact completes_nil _

def Finishes (chunks : List (List InputEvent)) (d : InputSensor) : Prop :=
  d.kind.fetchFull = false ∨ d.mEnabled = false ∨ [] ∈ chunks ∨
    d.kind.Completes d.mAbsEventReceived (d.mInputReader.contents ++ chunks.flatten)

theorem finishes_of_not_wants (h : ¬d.Wants count) (hs : d.mInputReader.Sound) (hc : count ≠ 0)
    (chunks : List (List InputEvent)) : d.Finishes chunks := by
  rw [wants_iff hs hc] at h
  by_cases hfull : d.kind.fetchFull = true
  · by_cases hon : d.mEnabled = true
    · have hcompletes : d.kind.Completes d.mAbsEventReceived d.mInputReader.contents := by
        by_contra hno
        exact h ⟨hfull, hon, hno⟩
      exact Or.inr (Or.inr (Or.inr (hcompletes.append _)))
    · exact Or.inr (Or.inl (Bool.eq_false_of_not_eq_true hon))
  · exact Or.inl (Bool.eq_false_of_not_eq_true hfull)

theorem Wants.finishes_iff (h : d.Wants count) (chunks : List (List InputEvent)) :
    d.Finishes chunks ↔ [] ∈ chunks ∨
      d.kind.Completes d.mAbsEventReceived (d.mInputReader.contents ++ chunks.flatten) := by
  simp [Finishes, h.2.1, h.2.2]

theorem fetch_returns_iff (hs : d.mInputReader.Sound) (hc : count ≠ 0)
    {chunks : List (List InputEvent)} (hfits : ∀ es ∈ chunks, es.length ≤ d.mInputReader.numEvents) :
    (∃ n, (d.fetch count
      (chunks.map ReadResult.events ++ List.replicate n (.failed 11))).isSome) ↔
        d.Finishes chunks := by
  induction chunks generalizing d with
  | nil =>
    by_cases hw : d.Wants count
    · refine iff_of_false ?_ ?_
      · rintro ⟨n, hn⟩
        rw [List.map_nil, List.nil_append, hw.spins hs hc] at hn
        cases hn
      · rw [hw.finishes_iff]
        rintro (hmem | hcompletes)
        · cases hmem
        · rw [List.flatten_nil, List.append_nil] at hcompletes
          exact ((wants_iff hs hc).mp hw).2.2 hcompletes
    · exact iff_of_true ⟨0, fetch_returns hw _⟩ (finishes_of_not_wants hw hs hc _)
  | cons es chunks ih =>
    by_cases hw : d.Wants count
    · have hempty := hw.emptied hs hc
      generalize hd : (d.drain d.mInputReader.available count).2 = d₁ at hempty
      have hroom : es.length ≤ d₁.mInputReader.mFreeSpace := by
        rw [hempty.free.1, hempty.size]
        exact hfits es (List.mem_cons_self ..)
      obtain ⟨reader, hfill, hsound, hcontents, hsize⟩ := hempty.sound.fill_events hroom
      rw [hempty.contents, List.nil_append] at hcontents
      have hfetch := fun n => hw.fetch_cons hs hc hd hfill
        (chunks.map ReadResult.events ++ List.replicate n (.failed 11))
      simp only [List.map_cons, List.cons_append, hfetch]
      by_cases hnil : es = []
      · subst hnil
        exact iff_of_true ⟨0, rfl⟩ ((hw.finishes_iff _).mpr (Or.inl (List.mem_cons_self ..)))
      · have hlen : (es.length : Int) ≠ 0 := fun h =>
          hnil (List.eq_nil_of_length_eq_zero (by omega))
        simp only [if_neg hlen]
        rw [ih (d := { d₁ with mInputReader := reader }) hsound, hw.finishes_iff]
        · have hfull : d₁.kind.fetchFull = true := by
            rw [hempty.same.kind]
            exact hw.2.1
          have hcompletes := hempty.completes hw.2.2 (es ++ chunks.flatten)
          simp only [Finishes, hfull, hempty.same.enabled, hw.2.2, hcontents, hcompletes]
          simp [Ne.symm hnil]
        · intro fs hfs
          rw [hsize, hempty.size]
          exact hfits fs (List.mem_cons_of_mem _ hfs)
    · exact iff_of_true ⟨0, fetch_returns hw _⟩ (finishes_of_not_wants hw hs hc _)

end InputSensor

/-- A driver and its node: the chunks that the reads give before the first `-EAGAIN`. A read gives
no more than it is asked for, the free space at first and the whole ring once it is empty. -/
structure Device where
  sensor : InputSensor
  chunks : List (List InputEvent)
  sound : sensor.mInputReader.Sound
  first : sensor.mInputReader.mFreeSpace ≠ 0 → ∀ es ∈ chunks.head?,
    es.length ≤ sensor.mInputReader.mFreeSpace
  fits : ∀ es ∈ chunks, es.length ≤ sensor.mInputReader.numEvents

namespace Device

def reads (x : Device) (n : Nat) : List ReadResult :=
  x.chunks.map ReadResult.events ++ List.replicate n (.failed 11)

/-- Some number of reads is enough for `readEvents`. -/
def Returns (x : Device) (count now : Int) : Prop :=
  ∃ n, (x.sensor.readEvents count now (x.reads n)).isSome

def AtOnce (x : Device) (count : Int) : Prop :=
  count < 1 ∨ x.sensor.mHasPendingEvent = true ∨ x.sensor.mHasPendingMetadata ≠ 0

def Fails (x : Device) : Prop := x.sensor.mInputReader.mFreeSpace ≠ 0 ∧ x.chunks = []

def later (x : Device) : List (List InputEvent) :=
  if x.sensor.mInputReader.mFreeSpace = 0 then x.chunks else x.chunks.tail

def Fetches (x : Device) : Prop :=
  ¬x.Fails ∧ (x.sensor.kind.fetchFull = false ∨ x.sensor.mEnabled = false ∨ [] ∈ x.later ∨
    x.sensor.kind.Completes x.sensor.mAbsEventReceived
      (x.sensor.mInputReader.contents ++ x.chunks.flatten))

def Answered (x : Device) (count : Int) : Prop := x.AtOnce count ∨ x.Fetches

variable {x : Device} {count now : Int}

def Answer (r : Option (Except Int (List HalEvent) × InputSensor)) : Prop :=
  ∃ r' d, r = some (r', d) ∧ ∀ err, r' = .error err → ¬SensorsHal.retried err

theorem Answer.ok (es : List HalEvent) (d : InputSensor) : Answer (some (.ok es, d)) := by
  refine ⟨_, _, rfl, ?_⟩
  intro err he
  cases he

theorem readEvents_atOnce (h : x.AtOnce count) (reads : List ReadResult) :
    Answer (x.sensor.readEvents count now reads) := by
  rw [InputSensor.readEvents.eq_def]
  by_cases hc : count < 1
  · rw [if_pos hc]
    refine ⟨_, _, rfl, fun err he => ?_⟩
    obtain rfl := Except.error.inj he
    decide
  · rw [if_neg hc]
    by_cases hevent : x.sensor.mHasPendingEvent = true
    · rw [if_pos hevent]
      exact .ok ..
    · rw [if_neg hevent]
      by_cases hmeta : x.sensor.mHasPendingMetadata ≠ 0
      · rw [if_pos hmeta]
        exact .ok ..
      · rcases h with h | h | h
        · exact absurd h hc
        · exact absurd h hevent
        · exact absurd h hmeta

theorem readEvents_fails (h : ¬x.AtOnce count) (hf : x.Fails) (now : Int) :
    x.sensor.readEvents count now [] = none ∧ ∀ reads,
      x.sensor.readEvents count now (.failed 11 :: reads) = some (.error (-11), x.sensor) := by
  simp only [AtOnce, not_or] at h
  obtain ⟨hc, hevent, hmeta⟩ := h
  constructor
  · rw [InputSensor.readEvents.eq_def, if_neg hc, if_neg hevent, if_neg hmeta, if_neg hf.1]
  · intro reads
    rw [InputSensor.readEvents.eq_def, if_neg hc, if_neg hevent, if_neg hmeta, if_neg hf.1]
    rfl

theorem readEvents_fetches (h : ¬x.AtOnce count) (hf : ¬x.Fails) (now : Int) : ∃ d : InputSensor,
    d.mInputReader.Sound ∧ (∀ es ∈ x.later, es.length ≤ d.mInputReader.numEvents) ∧
    (d.Finishes x.later ↔ x.Fetches) ∧ ∀ n, x.sensor.readEvents count now (x.reads n) =
      (d.fetch count.toNat (x.later.map ReadResult.events ++ List.replicate n (.failed 11))).map
        fun r => (.ok r.1, r.2) := by
  simp only [AtOnce, not_or] at h
  obtain ⟨hc, hevent, hmeta⟩ := h
  simp only [InputSensor.readEvents.eq_def, if_neg hc, if_neg hevent, if_neg hmeta]
  by_cases hfull : x.sensor.mInputReader.mFreeSpace = 0
  · have hlater : x.later = x.chunks := if_pos hfull
    refine ⟨x.sensor, x.sound, hlater ▸ x.fits, ?_, fun n => ?_⟩
    · rw [Fetches, InputSensor.Finishes, hlater]
      exact (and_iff_right hf).symm
    · rw [if_pos hfull, hlater]
      rfl
  · have hlater : x.later = x.chunks.tail := if_neg hfull
    cases hchunks : x.chunks with
    | nil => exact absurd ⟨hfull, hchunks⟩ hf
    | cons es chunks =>
      rw [hchunks, List.tail_cons] at hlater
      have hroom : es.length ≤ x.sensor.mInputReader.mFreeSpace :=
        x.first hfull es (by rw [hchunks]; rfl)
      obtain ⟨reader, hfill, hsound, hcontents, hsize⟩ := x.sound.fill_events hroom
      refine ⟨{ x.sensor with mInputReader := reader }, hsound, ?_, ?_, fun n => ?_⟩
      · intro fs hfs
        rw [hlater] at hfs
        rw [hsize]
        exact x.fits fs (by rw [hchunks]; exact List.mem_cons_of_mem _ hfs)
      · rw [Fetches, and_iff_right hf, InputSensor.Finishes, hlater, hchunks, hcontents,
          List.flatten_cons, List.append_assoc]
      · have hn : ¬(es.length : Int) < 0 := by omega
        rw [if_neg hfull, hlater, reads, hchunks, List.map_cons, List.cons_append]
        dsimp only
        rw [hfill]
        dsimp only
        rw [if_neg hn]

theorem Answered.answer (h : x.Answered count) (now : Int) :
    ∃ n, Answer (x.sensor.readEvents count now (x.reads n)) := by
  by_cases honce : x.AtOnce count
  · exact ⟨0, readEvents_atOnce honce _⟩
  · have hfetches := h.resolve_left honce
    obtain ⟨d, hs, hfits, hfinishes, hread⟩ := readEvents_fetches honce hfetches.1 now
    have hpos : ¬count < 1 := fun hlt => honce (Or.inl hlt)
    have hc : count.toNat ≠ 0 := by omega
    obtain ⟨n, hn⟩ := (InputSensor.fetch_returns_iff hs hc hfits).mpr (hfinishes.mpr hfetches)
    obtain ⟨r, hr⟩ := Option.isSome_iff_exists.mp hn
    refine ⟨n, ?_⟩
    rw [hread, hr]
    exact .ok ..

theorem readEvents_none (h : ¬x.Answered count) (hf : ¬x.Fails) (now : Int) (n : Nat) :
    x.sensor.readEvents count now (x.reads n) = none := by
  obtain ⟨honce, hfetches⟩ := not_or.mp h
  obtain ⟨d, hs, hfits, hfinishes, hread⟩ := readEvents_fetches honce hf now
  have hpos : ¬count < 1 := fun hlt => honce (Or.inl hlt)
  have hc : count.toNat ≠ 0 := by omega
  rw [hread, Option.map_eq_none_iff, ← Option.not_isSome_iff_eq_none]
  exact fun hn => hfetches (hfinishes.mp ((InputSensor.fetch_returns_iff hs hc hfits).mp ⟨n, hn⟩))

theorem returns_iff : x.Returns count now ↔ x.Answered count ∨ x.Fails := by
  by_cases h : x.Answered count
  · refine iff_of_true ?_ (Or.inl h)
    obtain ⟨n, r, d, hr, -⟩ := h.answer now
    exact ⟨n, by rw [hr]; rfl⟩
  · by_cases hf : x.Fails
    · refine iff_of_true ⟨1, ?_⟩ (Or.inr hf)
      rw [reads, hf.2]
      exact Option.isSome_of_eq_some ((readEvents_fails (fun honce => h (Or.inl honce)) hf now).2 [])
    · refine iff_of_false ?_ (not_or.mpr ⟨h, hf⟩)
      rintro ⟨n, hn⟩
      rw [readEvents_none h hf] at hn
      cases hn

end Device

structure Managed extends Device where
  sensors : SensorList
  hal : SensorsHal
  handle : Int
  list : Nat
  found : sensors.getInfoByHandle handle = some list
  driver : hal.driver list = .input sensor

namespace Managed

variable {x : Managed} {count : Int}

/-- The driver's first call and those after an error, when the node still fails. -/
def calls (x : Managed) (n again : Nat) (now : Nat → Int) (memory : Nat → HalEvent) :
    List SensorDriver.Reads :=
  ⟨now 0, x.reads n, memory⟩ ::
    (List.range again).map fun k => ⟨now (k + 1), List.replicate n (.failed 11), memory⟩

/-- Some number of reads and calls of the driver is enough for `readEvents` of the manager. -/
def ManagerReturns (x : Managed) (count : Int) (now : Nat → Int) (memory : Nat → HalEvent)
    (algo : Nat → HalEvent → Option (List Int)) : Prop :=
  ∃ n again, (x.hal.readEvents x.sensors x.handle count (x.calls n again now memory) algo).isSome

theorem readEvents_isSome (ws : List SensorDriver.Reads)
    (algo : Nat → HalEvent → Option (List Int)) :
    (x.hal.readEvents x.sensors x.handle count ws algo).isSome =
      (x.hal.readDriver x.list count ws).isSome := by
  rw [SensorsHal.readEvents, x.found]
  dsimp only
  rcases x.hal.readDriver x.list count ws with _ | ⟨_ | _, _⟩ <;> rfl

theorem readDriver_answer {s : SensorsHal} {d : InputSensor} {list : Nat}
    {w : SensorDriver.Reads} (hd : s.driver list = .input d)
    (h : Device.Answer (d.readEvents count w.now w.reads)) (ws : List SensorDriver.Reads) :
    (s.readDriver list count (w :: ws)).isSome := by
  obtain ⟨r, d', hr, htaken⟩ := h
  rw [SensorsHal.readDriver, hd]
  simp only [SensorDriver.readEvents, hr, Option.map_some]
  cases r with
  | ok es => rfl
  | error err =>
    dsimp only
    rw [if_neg (htaken err rfl)]
    rfl

theorem readDriver_fails (h : ¬x.AtOnce count) (hf : x.Fails) {s : SensorsHal}
    (hd : s.driver x.list = .input x.sensor) {ws : List SensorDriver.Reads}
    (hws : ∀ w ∈ ws, ∃ n, w.reads = List.replicate n (.failed 11)) :
    s.readDriver x.list count ws = none := by
  induction ws generalizing s with
  | nil => rfl
  | cons w ws ih =>
    obtain ⟨n, hn⟩ := hws w (List.mem_cons_self ..)
    have hfails := Device.readEvents_fails h hf w.now
    rw [SensorsHal.readDriver, hd]
    simp only [SensorDriver.readEvents, hn]
    cases n with
    | zero =>
      rw [List.replicate_zero, hfails.1]
      rfl
    | succ n =>
      rw [List.replicate_succ, hfails.2]
      simp only [Option.map_some]
      rw [if_pos (by decide)]
      exact ih (Function.update_self ..) fun v hv => hws v (List.mem_cons_of_mem _ hv)

theorem managerReturns_iff (now : Nat → Int) (memory : Nat → HalEvent)
    (algo : Nat → HalEvent → Option (List Int)) :
    x.ManagerReturns count now memory algo ↔ x.Answered count := by
  simp only [ManagerReturns, readEvents_isSome]
  by_cases h : x.Answered count
  · refine iff_of_true ?_ h
    obtain ⟨n, hn⟩ := h.answer (now 0)
    exact ⟨n, 0, readDriver_answer (w := ⟨now 0, x.reads n, memory⟩) x.driver hn []⟩
  · refine iff_of_false ?_ h
    rintro ⟨n, again, hsome⟩
    by_cases hf : x.Fails
    · rw [readDriver_fails (fun honce => h (Or.inl honce)) hf x.driver] at hsome
      · cases hsome
      · intro w hw
        rcases List.mem_cons.mp hw with rfl | hw
        · exact ⟨n, by rw [Device.reads, hf.2]; rfl⟩
        · obtain ⟨k, -, rfl⟩ := List.mem_map.mp hw
          exact ⟨n, rfl⟩
    · rw [calls, SensorsHal.readDriver, x.driver] at hsome
      simp only [SensorDriver.readEvents, Device.readEvents_none h hf] at hsome
      cases hsome

/-- A read ends when something is pending, or the node has something to read and what it gives
ends the loop of the driver. At a node that fails at once the driver gives up, the manager not. -/
theorem reads_return_iff (x : Managed) (count : Int) (now : Nat → Int) (memory : Nat → HalEvent)
    (algo : Nat → HalEvent → Option (List Int)) :
    (x.Returns count (now 0) ∧ x.ManagerReturns count now memory algo ↔ x.Answered count) ∧
      (x.Returns count (now 0) ↔ x.Answered count ∨ x.Fails) := by
  refine ⟨?_, Device.returns_iff⟩
  rw [managerReturns_iff, Device.returns_iff]
  exact ⟨fun h => h.2, fun h => ⟨Or.inl h, h⟩⟩

def halfRead : Managed where
  sensor := { SensorsHal.idleInput .accel 1 with mEnabled := true }
  chunks := [[⟨0, evAbs, 0, 5⟩]]
  sound := (InputEventCircularReader.new_sound (by decide) _).1
  first := by decide
  fits := by decide
  sensors := ManagerRun.twoAndVirtual
  hal := { SensorsHal.idle with
    driver := fun _ => .input { SensorsHal.idleInput .accel 1 with mEnabled := true } }
  handle := 1
  list := 0
  found := by decide
  driver := rfl

theorem half_read_spins : ¬∀ (x : Managed) (count : Int) (now : Nat → Int)
    (memory : Nat → HalEvent) (algo : Nat → HalEvent → Option (List Int)),
    x.sensor.kind = .accel ∨ x.sensor.kind = .compass →
      x.Returns count (now 0) ∧ x.ManagerReturns count now memory algo := by
  intro h
  have hreturns := (h halfRead 1 (fun _ => 0) (fun _ => .reading 0 0 []) (fun _ _ => none)
    (Or.inl rfl)).1
  rcases Device.returns_iff.mp hreturns with (honce | ⟨-, hfull | hon | hmem | hcompletes⟩) | hfails
  · exact absurd honce (by simp [Device.AtOnce, halfRead, SensorsHal.idleInput])
  · cases hfull
  · cases hon
  · exact absurd hmem (by decide)
  · have hcontents : halfRead.sensor.mInputReader.contents = [] :=
      (InputEventCircularReader.new_sound (by decide) _).2
    have hchunks : halfRead.chunks.flatten = [⟨0, evAbs, 0, 5⟩] := rfl
    rw [hcontents, hchunks, List.nil_append, completes_cons] at hcompletes
    rcases hcompletes with ⟨hends, -⟩ | hnil
    · exact absurd hends (by decide)
    · exact completes_nil _ hnil
  · cases hfails.2

end Managed

end Wt88047.Sensors
