import Wt88047.Sensors.SensorsHal

/-! The completions of flushes that are pending at a driver, and those that a read gives back. -/

namespace Wt88047.Sensors

def HalEvent.completes (x : Nat) : HalEvent → Bool
  | .reading .. => false
  | .flushComplete sensor _ => sensor = sensorsHandle x

def completions (x : Nat) : Except Int (List HalEvent) → Nat
  | .error _ => 0
  | .ok es => es.countP (·.completes x)

namespace SensorList

variable {sensors : SensorList} {handle : Int} {x : Nat}

theorem getInfoByHandle_eq_some : sensors.getInfoByHandle handle = some x ↔
    x < sensors.mSensorCount ∧ handle = sensorsHandle x := by
  constructor
  · intro h
    have hfound := List.find?_some h
    exact ⟨NativeSensorManager.getInfoByHandle_lt h, (of_decide_eq_true hfound).symm⟩
  · rintro ⟨hx, rfl⟩
    cases h : sensors.getInfoByHandle (sensorsHandle x) with
    | none =>
      have hnone := List.find?_eq_none.mp h x (List.mem_range.mpr hx)
      simp at hnone
    | some y =>
      have hfound : sensorsHandle y = sensorsHandle x :=
        of_decide_eq_true (@List.find?_some _ (fun y => sensorsHandle y = sensorsHandle x) _ _ h)
      simp only [sensorsHandle] at hfound
      rw [show y = x by omega]

end SensorList

namespace SensorDriver

def Serves (sensors : SensorList) (x : Nat) : SensorDriver → Prop
  | .input d => (sensors.info x).isVirtual = false ∧ d.handle = sensorsHandle x
  | .virtual v => (sensors.info x).isVirtual = true ∧ v.handle = sensorsHandle x ∧
    ∀ e ∈ v.mBuffer, ∀ y, e.completes y = false

/-- The last event, when it is to be reported again, completes no flush of a sensor on the list. -/
def Harmless (sensors : SensorList) : SensorDriver → Prop
  | .input _ => True
  | .virtual v => v.mEnabled = true → v.reportLastEvent = true →
    ∀ y < sensors.mSensorCount, v.mLastEvent.completes y = false

end SensorDriver

namespace InputSensor

variable {d d' : InputSensor} {outs : List HalEvent}

structure Same (d d' : InputSensor) : Prop where
  kind : d'.kind = d.kind
  handle : d'.handle = d.handle
  enabled : d'.mEnabled = d.mEnabled
  metadata : d'.mHasPendingMetadata = d.mHasPendingMetadata
  event : d'.mHasPendingEvent = d.mHasPendingEvent

theorem Same.refl (d : InputSensor) : d.Same d := ⟨rfl, rfl, rfl, rfl, rfl⟩

theorem Same.trans {d'' : InputSensor} (h : d.Same d') (h' : d'.Same d'') : d.Same d'' where
  kind := h'.kind.trans h.kind
  handle := h'.handle.trans h.handle
  enabled := h'.enabled.trans h.enabled
  metadata := h'.metadata.trans h.metadata
  event := h'.event.trans h.event

structure Turned (d : InputSensor) (out : Option HalEvent) (d' : InputSensor) : Prop where
  same : d.Same d'
  reader : d'.mInputReader = d.mInputReader
  abs : d.mAbsEventReceived = true → d'.mAbsEventReceived = true
  out : ∀ o, out = some o → o = d'.pendingEvent ∧ d.mEnabled = true ∧
    (d.kind.needsAbs = true → d.mAbsEventReceived = true)

theorem report_turned (e : InputEvent) (d : InputSensor) : Turned d (d.report e).1 (d.report e).2 := by
  unfold report
  by_cases hready : d.mEnabled = true ∧ (d.kind.needsAbs = true → d.mAbsEventReceived = true)
  · rw [if_pos hready]
    exact ⟨⟨rfl, rfl, rfl, rfl, rfl⟩, rfl, id, fun o ho => ⟨(Option.some.inj ho).symm, hready⟩⟩
  · rw [if_neg hready]
    exact ⟨⟨rfl, rfl, rfl, rfl, rfl⟩, rfl, id, fun o ho => nomatch ho⟩

theorem take_turned (e : InputEvent) (d : InputSensor) : Turned d (d.take e).1 (d.take e).2 := by
  unfold take
  by_cases habs : e.type = evAbs
  · rw [if_pos habs]
    exact ⟨⟨rfl, rfl, rfl, rfl, rfl⟩, rfl, fun _ => rfl, fun o ho => nomatch ho⟩
  rw [if_neg habs]
  by_cases hsyn : e.type = evSyn
  · rw [if_pos hsyn]
    by_cases hsec : e.code = synTimeSec
    · rw [if_pos hsec]
      exact ⟨⟨rfl, rfl, rfl, rfl, rfl⟩, rfl, id, fun o ho => nomatch ho⟩
    rw [if_neg hsec]
    by_cases hnsec : e.code = synTimeNsec
    · rw [if_pos hnsec]
      exact ⟨⟨rfl, rfl, rfl, rfl, rfl⟩, rfl, id, fun o ho => nomatch ho⟩
    rw [if_neg hnsec]
    by_cases hreport : e.code = synReport
    · rw [if_pos hreport]
      exact report_turned e d
    · rw [if_neg hreport]
      exact ⟨.refl d, rfl, id, fun o ho => nomatch ho⟩
  · rw [if_neg hsyn]
    exact ⟨.refl d, rfl, id, fun o ho => nomatch ho⟩

theorem take_same (e : InputEvent) (d : InputSensor) :
    d.Same (d.take e).2 ∧ ∀ out, (d.take e).1 = some out → ∀ y, out.completes y = false := by
  have h := take_turned e d
  refine ⟨h.same, fun out hout y => ?_⟩
  rw [(h.out out hout).1]
  rfl

theorem drain_same (turns count : Nat) (d : InputSensor) :
    d.Same (d.drain turns count).2 ∧ ∀ e ∈ (d.drain turns count).1, ∀ y, e.completes y = false := by
  induction turns generalizing count d with
  | zero => exact ⟨.refl d, by simp [drain]⟩
  | succ turns ih =>
    rw [drain]
    split
    · exact ⟨.refl d, by simp⟩
    · cases d.mInputReader.readEvent with
      | none => exact ⟨.refl d, by simp⟩
      | some e =>
        obtain ⟨hsame, hout⟩ := take_same e d
        dsimp only
        rcases hd : d.take e with ⟨_ | out, d₁⟩
        · rw [hd] at hsame
          obtain ⟨hrest, hreadings⟩ := ih count d₁.next
          exact ⟨hsame.trans ⟨hrest.kind, hrest.handle, hrest.enabled, hrest.metadata, hrest.event⟩,
            hreadings⟩
        · rw [hd] at hsame hout
          obtain ⟨hrest, hreadings⟩ := ih (count - 1) d₁.next
          refine ⟨hsame.trans ⟨hrest.kind, hrest.handle, hrest.enabled, hrest.metadata,
            hrest.event⟩, ?_⟩
          intro a ha y
          rcases List.mem_cons.mp ha with rfl | ha
          · exact hout a rfl y
          · exact hreadings a ha y

theorem fetch_cases {count : Nat} {reads : List ReadResult}
    (h : d.fetch count reads = some (outs, d')) :
    d.drain d.mInputReader.available count = (outs, d') ∨
      ∃ d₁ result rest n reader, d.drain d.mInputReader.available count = ([], d₁) ∧
        reads = result :: rest ∧ d₁.mInputReader.fill result = some (n, reader) ∧
        (n = 0 ∧ outs = [] ∧ d' = { d₁ with mInputReader := reader } ∨
          n ≠ 0 ∧ fetch count rest { d₁ with mInputReader := reader } = some (outs, d')) := by
  rw [fetch.eq_def] at h
  dsimp only at h
  rcases hd : d.drain d.mInputReader.available count with ⟨outs₁, d₁⟩
  rw [hd] at h
  split at h
  · rename_i hnone
    obtain ⟨rfl, -⟩ := hnone
    split at h
    · left
      exact Option.some.inj h
    · right
      cases reads with
      | nil => cases h
      | cons result rest =>
        dsimp only at h
        cases hf : d₁.mInputReader.fill result with
        | none =>
          rw [hf] at h
          cases h
        | some f =>
          obtain ⟨n, reader⟩ := f
          rw [hf] at h
          dsimp only at h
          refine ⟨d₁, result, rest, n, reader, rfl, rfl, hf, ?_⟩
          split at h
          · rename_i hn
            obtain ⟨rfl, rfl⟩ := Prod.mk.inj (Option.some.inj h)
            exact Or.inl ⟨hn, rfl, rfl⟩
          · rename_i hn
            exact Or.inr ⟨hn, h⟩
  · left
    exact Option.some.inj h

theorem fetch_same {count : Nat} {reads : List ReadResult}
    (h : d.fetch count reads = some (outs, d')) :
    d.Same d' ∧ ∀ e ∈ outs, ∀ y, e.completes y = false := by
  induction reads generalizing d with
  | nil =>
    obtain ⟨hsame, hreadings⟩ := drain_same d.mInputReader.available count d
    rcases fetch_cases h with hd | ⟨_, _, _, _, _, -, hr, -⟩
    · rw [hd] at hsame hreadings
      exact ⟨hsame, hreadings⟩
    · cases hr
  | cons result reads ih =>
    obtain ⟨hsame, hreadings⟩ := drain_same d.mInputReader.available count d
    rcases fetch_cases h with hd | ⟨d₁, _, _, n, reader, hd, hr, -, hend⟩
    · rw [hd] at hsame hreadings
      exact ⟨hsame, hreadings⟩
    · rw [hd] at hsame
      obtain ⟨rfl, rfl⟩ := List.cons.inj hr
      have hfilled : d.Same { d₁ with mInputReader := reader } :=
        ⟨hsame.kind, hsame.handle, hsame.enabled, hsame.metadata, hsame.event⟩
      rcases hend with ⟨-, rfl, rfl⟩ | ⟨-, hrest⟩
      · exact ⟨hfilled, by simp⟩
      · exact ⟨hfilled.trans (ih hrest).1, (ih hrest).2⟩

end InputSensor

theorem completions_readings {es : List HalEvent} (h : ∀ e ∈ es, ∀ y, e.completes y = false)
    (y : Nat) : completions y (.ok es) = 0 := by
  rw [completions, List.countP_eq_zero]
  intro e he
  rw [h e he y]
  exact Bool.false_ne_true

theorem completions_flushComplete {handle : Int} {x : Nat} (h : handle = sensorsHandle x) (y : Nat)
    (now : Int) : completions y (.ok [.flushComplete handle now]) = if y = x then 1 else 0 := by
  have hhandle : handle = sensorsHandle y ↔ y = x := by
    simp only [h, sensorsHandle]
    omega
  simp [completions, HalEvent.completes, hhandle]

namespace SensorDriver

variable {sensors : SensorList} {x : Nat} {d d' : SensorDriver} {count : Int}
  {r : Except Int (List HalEvent)}

structure Answers (sensors : SensorList) (x : Nat) (d : SensorDriver)
    (r : Except Int (List HalEvent)) (d' : SensorDriver) : Prop where
  serves : d'.Serves sensors x
  enabled : d'.mEnabled = d.mEnabled
  le : d'.mHasPendingMetadata ≤ d.mHasPendingMetadata
  completes : ∀ y < sensors.mSensorCount, completions y r =
    if d.mEnabled = true ∧ y = x then d.mHasPendingMetadata - d'.mHasPendingMetadata else 0
  error : ∀ err, r = .error err → d'.mHasPendingMetadata = d.mHasPendingMetadata

theorem Answers.of_readings (hs : d'.Serves sensors x) (he : d'.mEnabled = d.mEnabled)
    (hm : d'.mHasPendingMetadata = d.mHasPendingMetadata) (hr : ∀ y, completions y r = 0) :
    d.Answers sensors x r d' where
  serves := hs
  enabled := he
  le := by rw [hm]
  completes y _ := by rw [hr, hm, Nat.sub_self, ite_self]
  error _ _ := hm

theorem answers_input {d d' : InputSensor} {now : Int} {reads : List ReadResult}
    (hs : (SensorDriver.input d).Serves sensors x)
    (h : d.readEvents count now reads = some (r, d')) :
    (SensorDriver.input d).Answers sensors x r (.input d') := by
  obtain ⟨hhw, hhandle⟩ := hs
  rw [InputSensor.readEvents.eq_def] at h
  have hfetched : ∀ (d₁ : InputSensor) (reads : List ReadResult), d.Same d₁ →
      ((d₁.fetch count.toNat reads).map fun f => (Except.ok f.1, f.2)) = some (r, d') →
      (SensorDriver.input d).Answers sensors x r (.input d') := by
    intro d₁ reads hsame hf
    obtain ⟨⟨outs, d₂⟩, hfetch, he⟩ := Option.map_eq_some_iff.mp hf
    obtain ⟨rfl, rfl⟩ := Prod.mk.inj he
    obtain ⟨hrest, hreadings⟩ := InputSensor.fetch_same hfetch
    have hall := hsame.trans hrest
    exact .of_readings ⟨hhw, hall.handle.trans hhandle⟩ hall.enabled hall.metadata
      (completions_readings hreadings)
  by_cases hc : count < 1
  · rw [if_pos hc] at h
    obtain ⟨rfl, rfl⟩ := Prod.mk.inj (Option.some.inj h)
    exact .of_readings ⟨hhw, hhandle⟩ rfl rfl fun _ => rfl
  rw [if_neg hc] at h
  by_cases hevent : d.mHasPendingEvent = true
  · rw [if_pos hevent] at h
    obtain ⟨rfl, rfl⟩ := Prod.mk.inj (Option.some.inj h)
    refine .of_readings ⟨hhw, hhandle⟩ rfl rfl (completions_readings ?_)
    intro e he y
    split at he
    · rw [List.mem_singleton.mp he]
      rfl
    · cases he
  rw [if_neg hevent] at h
  by_cases hmeta : d.mHasPendingMetadata ≠ 0
  · rw [if_pos hmeta] at h
    obtain ⟨rfl, rfl⟩ := Prod.mk.inj (Option.some.inj h)
    refine ⟨⟨hhw, hhandle⟩, rfl, Nat.sub_le _ _, fun y _ => ?_, fun err he => by cases he⟩
    simp only [mEnabled, mHasPendingMetadata]
    by_cases hon : d.mEnabled = true
    · rw [if_pos hon, completions_flushComplete hhandle]
      simp only [hon, true_and]
      split <;> omega
    · rw [if_neg hon]
      simp [completions, hon]
  rw [if_neg hmeta] at h
  by_cases hfull : d.mInputReader.mFreeSpace = 0
  · rw [if_pos hfull] at h
    exact hfetched d reads (.refl d) h
  rw [if_neg hfull] at h
  cases reads with
  | nil => cases h
  | cons result reads =>
    dsimp only at h
    cases hf : d.mInputReader.fill result with
    | none =>
      rw [hf] at h
      cases h
    | some f =>
      obtain ⟨n, reader⟩ := f
      rw [hf] at h
      dsimp only at h
      by_cases hn : n < 0
      · rw [if_pos hn] at h
        obtain ⟨rfl, rfl⟩ := Prod.mk.inj (Option.some.inj h)
        exact .of_readings ⟨hhw, hhandle⟩ rfl rfl fun _ => rfl
      · rw [if_neg hn] at h
        have hsame : d.Same { d with mInputReader := reader } := ⟨rfl, rfl, rfl, rfl, rfl⟩
        exact hfetched _ reads hsame h

theorem answers_virtual {v : VirtualSensor} {memory : Nat → HalEvent}
    (hs : (SensorDriver.virtual v).Serves sensors x)
    (hl : 1 ≤ count → (SensorDriver.virtual v).Harmless sensors) :
    (SensorDriver.virtual v).Answers sensors x (v.readEvents count memory).1
      (.virtual (v.readEvents count memory).2) := by
  obtain ⟨hvirtual, hhandle, hbuffer⟩ := hs
  rw [VirtualSensor.readEvents]
  by_cases hc : count < 1 ∨ v.mEnabled = false
  · rw [if_pos hc]
    exact .of_readings ⟨hvirtual, hhandle, hbuffer⟩ rfl rfl fun _ => rfl
  rw [if_neg hc]
  have hcount : 1 ≤ count := by omega
  have hon : v.mEnabled = true := by
    simp only [not_or, Bool.not_eq_false] at hc
    exact hc.2
  dsimp only
  generalize hlast : (if v.reportLastEvent = true then [v.mLastEvent] else []) = last
  generalize hflushed : (if v.mHasPendingMetadata ≠ 0 ∧ last.length < count.toNat then
    [HalEvent.flushComplete v.handle 0] else []) = flushed
  have hlastNone : ∀ y < sensors.mSensorCount, last.countP (·.completes y) = 0 := by
    intro y hy
    rw [← hlast]
    split
    · rename_i hreport
      simp [hl hcount hon hreport y hy]
    · rfl
  have hflushedOne : ∀ y, flushed.countP (·.completes y) = if y = x then flushed.length else 0 := by
    intro y
    rw [← hflushed]
    split
    · exact completions_flushComplete hhandle y 0
    · simp
  have hle : flushed.length ≤ v.mHasPendingMetadata := by
    rw [← hflushed]
    split
    · simp only [List.length_singleton]
      omega
    · exact Nat.zero_le _
  refine ⟨⟨hvirtual, hhandle, fun e he => hbuffer e (List.mem_of_mem_drop he)⟩, rfl,
    Nat.sub_le _ _, fun y hy => ?_, fun err he => by cases he⟩
  have hbuffered : ∀ n, (v.mBuffer.take n).countP (·.completes y) = 0 := by
    intro n
    exact completions_readings (fun e he => hbuffer e (List.mem_of_mem_take he)) y
  simp only [completions, List.countP_append, hlastNone y hy, hflushedOne, hbuffered, mEnabled, hon,
    true_and, mHasPendingMetadata, Nat.sub_sub_self hle]
  omega

theorem readEvents_answers {w : Reads} (hs : d.Serves sensors x)
    (hl : 1 ≤ count → d.Harmless sensors) (h : d.readEvents count w = some (r, d')) : d.Answers sensors x r d' := by
  cases d with
  | input d =>
    obtain ⟨⟨r₁, d₁⟩, hr, he⟩ := Option.map_eq_some_iff.mp h
    obtain ⟨rfl, rfl⟩ := Prod.mk.inj he
    exact answers_input hs hr
  | virtual v =>
    obtain ⟨rfl, rfl⟩ := Prod.mk.inj (Option.some.inj h)
    exact answers_virtual hs hl

theorem readEvents_error {w : Reads} {err : Int} (hl : d.Harmless sensors)
    (h : d.readEvents count w = some (.error err, d')) : d'.Harmless sensors := by
  cases d with
  | input d =>
    obtain ⟨⟨r₁, d₁⟩, hr, he⟩ := Option.map_eq_some_iff.mp h
    obtain ⟨-, rfl⟩ := Prod.mk.inj he
    trivial
  | virtual v =>
    obtain ⟨hr, rfl⟩ := Prod.mk.inj (Option.some.inj h)
    rw [VirtualSensor.readEvents] at hr ⊢
    split at hr
    · rename_i hc
      rw [if_pos hc]
      exact hl
    · cases hr

def early : SensorDriver → Nat
  | .input d => if d.mHasPendingEvent then 1 else 0
  | .virtual v => if v.reportLastEvent then 1 else 0

theorem readEvents_progress (w : Reads) (he : d.mEnabled = true) (hp : d.mHasPendingMetadata ≠ 0)
    (hc : 1 ≤ count) : ∃ es d', d.readEvents count w = some (.ok es, d') ∧
      d'.mEnabled = d.mEnabled ∧ d'.mHasPendingMetadata + d'.early < d.mHasPendingMetadata + d.early := by
  cases d with
  | input d =>
    simp only [mEnabled, mHasPendingMetadata] at he hp
    simp only [readEvents, InputSensor.readEvents]
    rw [if_neg (by omega)]
    by_cases hevent : d.mHasPendingEvent = true
    · rw [if_pos hevent]
      exact ⟨_, _, rfl, rfl, by simp [mHasPendingMetadata, early, hevent]⟩
    · rw [if_neg hevent, if_pos hp]
      refine ⟨_, _, rfl, rfl, ?_⟩
      simp only [mHasPendingMetadata, early]
      omega
  | virtual v =>
    simp only [mEnabled, mHasPendingMetadata] at he hp
    have hroom : 0 < count.toNat := by omega
    have hread : ∃ es v', v.readEvents count w.memory = (.ok es, v') ∧
        v'.mEnabled = v.mEnabled ∧ v'.mHasPendingMetadata + (if v'.reportLastEvent then 1 else 0) <
          v.mHasPendingMetadata + (if v.reportLastEvent then 1 else 0) := by
      rw [VirtualSensor.readEvents, if_neg (by simp [he]; omega)]
      refine ⟨_, _, rfl, rfl, ?_⟩
      cases v.reportLastEvent with
      | true =>
        simp only [if_true, Bool.false_eq_true, if_false]
        omega
      | false =>
        simp [hp, hroom]
        omega
    obtain ⟨es, v', hr, hon, hlt⟩ := hread
    exact ⟨es, .virtual v', by simp [readEvents, hr], hon, hlt⟩

theorem injectEvent_keeps (e : HalEvent) (converted : Option (List Int)) (d : SensorDriver) :
    (d.injectEvent e converted).mEnabled = d.mEnabled ∧
      (d.injectEvent e converted).mHasPendingMetadata = d.mHasPendingMetadata ∧
      (d.injectEvent e converted).early = d.early := by
  cases d with
  | input d => exact ⟨rfl, rfl, rfl⟩
  | virtual v =>
    simp only [injectEvent, VirtualSensor.injectEvent]
    split
    · split <;> exact ⟨rfl, rfl, rfl⟩
    · exact ⟨rfl, rfl, rfl⟩

theorem Serves.injectEvent (h : d.Serves sensors x) (e : HalEvent) (converted : Option (List Int)) :
    (d.injectEvent e converted).Serves sensors x := by
  cases d with
  | input d => exact h
  | virtual v =>
    obtain ⟨hvirtual, hhandle, hbuffer⟩ := h
    simp only [SensorDriver.injectEvent, VirtualSensor.injectEvent]
    split
    · split
      · refine ⟨hvirtual, hhandle, fun a ha y => ?_⟩
        rcases List.mem_append.mp ha with ha | ha
        · exact hbuffer a ha y
        · rw [List.mem_singleton.mp ha]
          rfl
      · exact ⟨hvirtual, hhandle, hbuffer⟩
    · exact ⟨hvirtual, hhandle, hbuffer⟩

theorem Serves.enable (h : d.Serves sensors x) (en : Int) (opened : Option Int) :
    (d.enable en opened).Serves sensors x := by
  cases d with
  | input d =>
    obtain ⟨hhw, hhandle⟩ := h
    simp only [SensorDriver.enable, InputSensor.enable]
    split
    · split <;> exact ⟨hhw, hhandle⟩
    · split <;> exact ⟨hhw, hhandle⟩
  | virtual v =>
    obtain ⟨hvirtual, hhandle, hbuffer⟩ := h
    simp only [SensorDriver.enable, VirtualSensor.enable]
    split
    · exact ⟨hvirtual, hhandle, hbuffer⟩
    · split <;> exact ⟨hvirtual, hhandle, hbuffer⟩

theorem enable_metadata (en : Int) (opened : Option Int) (d : SensorDriver) :
    (d.enable en opened).mHasPendingMetadata = d.mHasPendingMetadata := by
  cases d with
  | input d =>
    simp only [enable, InputSensor.enable]
    split
    · split <;> rfl
    · split <;> rfl
  | virtual v =>
    simp only [enable, VirtualSensor.enable]
    split
    · rfl
    · split <;> rfl

end SensorDriver

namespace SensorsHal

variable {sensors : SensorList} {s s' : SensorsHal} {x : Nat} {handle count : Int}
  {ws : List SensorDriver.Reads} {algo : Nat → HalEvent → Option (List Int)}
  {r : Except Int (List HalEvent)}

theorem injectAll_keeps {I : Nat → SensorDriver → Prop}
    (hI : ∀ x d e c, I x d → I x (d.injectEvent e c)) (list : Nat)
    (algo : Nat → HalEvent → Option (List Int)) (es : List HalEvent) (h : ∀ x, I x (s.driver x)) : (es.foldl (inject list algo) s).manager = s.manager ∧
      ∀ x, I x ((es.foldl (inject list algo) s).driver x) := by
  have hone : ∀ (ls : List Nat) (e : HalEvent) (t : SensorsHal), (∀ x, I x (t.driver x)) →
      let u := ls.foldl (fun s x => if (s.manager.context x).enable ≠ 0 ∧ x ≠ list then
        s.onDriver x (·.injectEvent e (algo x e)) else s) t
      u.manager = t.manager ∧ ∀ x, I x (u.driver x) := by
    intro ls e
    induction ls with
    | nil => exact fun t ht => ⟨rfl, ht⟩
    | cons y ls ih =>
      intro t ht
      rw [List.foldl_cons]
      split
      · obtain ⟨hm, hi⟩ := ih (t.onDriver y (·.injectEvent e (algo y e))) fun x => by
          by_cases hx : x = y
          · subst hx
            simp only [onDriver, Function.update_self]
            exact hI x _ e _ (ht x)
          · simp only [onDriver, Function.update_of_ne hx]
            exact ht x
        exact ⟨hm, hi⟩
      · exact ih t ht
  induction es generalizing s with
  | nil => exact ⟨rfl, h⟩
  | cons e es ih =>
    obtain ⟨hm, hi⟩ := hone (s.manager.context list).listener e s h
    obtain ⟨hm', hi'⟩ := ih hi
    exact ⟨hm'.trans hm, hi'⟩

theorem readDriver_answers (hs : (s.driver x).Serves sensors x)
    (hl : 1 ≤ count → (s.driver x).Harmless sensors) (h : s.readDriver x count ws = some (r, s')) :
    (s.driver x).Answers sensors x r (s'.driver x) := by
  induction ws generalizing s with
  | nil => cases h
  | cons w ws ih =>
    rw [readDriver] at h
    cases hr : (s.driver x).readEvents count w with
    | none =>
      rw [hr] at h
      cases h
    | some f =>
      obtain ⟨r₁, d₁⟩ := f
      rw [hr] at h
      have hanswers := SensorDriver.readEvents_answers hs hl hr
      have hend : some (r₁, { s with driver := Function.update s.driver x d₁ }) = some (r, s') →
          (s.driver x).Answers sensors x r (s'.driver x) := by
        intro he
        obtain ⟨rfl, rfl⟩ := Prod.mk.inj (Option.some.inj he)
        simp only [Function.update_self]
        exact hanswers
      cases r₁ with
      | ok es => exact hend h
      | error err =>
        dsimp only at h
        split at h
        · have hd : ({ s with driver := Function.update s.driver x d₁ } : SensorsHal).driver x = d₁ :=
            Function.update_self ..
          have hrest := ih (by rw [hd]; exact hanswers.serves)
            (fun hc => by rw [hd]; exact SensorDriver.readEvents_error (hl hc) hr) h
          rw [hd] at hrest
          have hsame := hanswers.error err rfl
          refine ⟨hrest.serves, hrest.enabled.trans hanswers.enabled, hsame ▸ hrest.le,
            fun y hy => ?_, fun e he => ?_⟩
          · rw [hrest.completes y hy, hanswers.enabled, hsame]
          · rw [hrest.error e he, hsame]
        · exact hend h

structure Reported (sensors : SensorList) (s : SensorsHal) (handle : Int)
    (r : Except Int (List HalEvent)) (s' : SensorsHal) : Prop where
  manager : s'.manager = s.manager
  serves : ∀ y < sensors.mSensorCount, (s'.driver y).Serves sensors y
  enabled : ∀ y, (s'.driver y).mEnabled = (s.driver y).mEnabled
  le : ∀ y, (s'.driver y).mHasPendingMetadata ≤ (s.driver y).mHasPendingMetadata
  completes : ∀ y < sensors.mSensorCount, completions y r =
    if (s.manager.context y).enable ≠ 0 ∧ (s.driver y).mEnabled = true then
      (s.driver y).mHasPendingMetadata - (s'.driver y).mHasPendingMetadata
    else 0

theorem readEvents_reported (hs : ∀ y < sensors.mSensorCount, (s.driver y).Serves sensors y)
    (hl : ∀ x < sensors.mSensorCount, handle = sensorsHandle x → 1 ≤ count →
      (s.driver x).Harmless sensors)
    (h : s.readEvents sensors handle count ws algo = some (r, s')) :
    s.Reported sensors handle r s' := by
  rw [readEvents] at h
  cases hx : sensors.getInfoByHandle handle with
  | none =>
    rw [hx] at h
    obtain ⟨rfl, rfl⟩ := Prod.mk.inj (Option.some.inj h)
    exact ⟨rfl, hs, fun _ => rfl, fun _ => le_refl _, fun y _ => by simp [completions]⟩
  | some x =>
    obtain ⟨hlt, hhandle⟩ := SensorList.getInfoByHandle_eq_some.mp hx
    rw [hx] at h
    dsimp only at h
    cases hr : s.readDriver x count ws with
    | none =>
      rw [hr] at h
      cases h
    | some f =>
      obtain ⟨r₁, s₁⟩ := f
      rw [hr] at h
      have hs₁ := readDriver_frame hr
      have hanswers := readDriver_answers (hs x hlt) (hl x hlt hhandle) hr
      have hother : ∀ y, y ≠ x → s₁.driver y = s.driver y := by
        intro y hy
        rw [hs₁]
        exact Function.update_of_ne hy _ _
      have hmanager : s₁.manager = s.manager := by rw [hs₁]
      -- Before the events are injected, and before what is not enabled is masked.
      have hread : s.Reported sensors handle (s₁.gated x r₁) s₁ := by
        refine ⟨hmanager, fun y hy => ?_, fun y => ?_, fun y => ?_, fun y hy => ?_⟩
        · by_cases hyx : y = x
          · subst hyx
            exact hanswers.serves
          · rw [hother y hyx]
            exact hs y hy
        · by_cases hyx : y = x
          · subst hyx
            exact hanswers.enabled
          · rw [hother y hyx]
        · by_cases hyx : y = x
          · subst hyx
            exact hanswers.le
          · rw [hother y hyx]
        · have hc := hanswers.completes y hy
          rw [gated, hmanager]
          by_cases hyx : y = x
          · subst hyx
            by_cases he : (s.manager.context y).enable ≠ 0
            · rw [if_pos he, hc]
              simp only [he, ne_eq, not_false_eq_true, true_and, and_true]
            · rw [if_neg he, if_neg fun hand => he hand.1]
              rfl
          · rw [if_neg fun hand => hyx hand.2] at hc
            rw [hother y hyx, Nat.sub_self, ite_self]
            split
            · exact hc
            · rfl
      cases r₁ with
      | error err =>
        obtain ⟨rfl, rfl⟩ := Prod.mk.inj (Option.some.inj h)
        exact hread
      | ok es =>
        obtain ⟨rfl, rfl⟩ := Prod.mk.inj (Option.some.inj h)
        have hkept := injectAll_keeps (s := s₁)
          (I := fun y d => (y < sensors.mSensorCount → d.Serves sensors y) ∧
            d.mEnabled = (s₁.driver y).mEnabled ∧
            d.mHasPendingMetadata = (s₁.driver y).mHasPendingMetadata)
          (fun y d e c hd => by
            obtain ⟨hen, hmeta, -⟩ := SensorDriver.injectEvent_keeps e c d
            exact ⟨fun hy => (hd.1 hy).injectEvent e c, hen.trans hd.2.1, hmeta.trans hd.2.2⟩)
          x algo es fun y => ⟨hread.serves y, rfl, rfl⟩
        obtain ⟨hm, hi⟩ := hkept
        refine ⟨hm.trans hread.manager, fun y hy => (hi y).1 hy, fun y => ?_, fun y => ?_,
          fun y hy => ?_⟩
        · rw [(hi y).2.1, hread.enabled]
        · rw [(hi y).2.2]
          exact hread.le y
        · rw [(hi y).2.2]
          exact hread.completes y hy

end SensorsHal

end Wt88047.Sensors
