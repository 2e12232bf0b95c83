import Wt88047.Gps.NmeaPages

/-! When a sentence reaches the callback whole, with its checksum and its length. The last text of a sentence is
not checked, and `loc_eng_nmea_put_checksum` returns the length of a checksum that there was no room for. -/

namespace Wt88047.Nmea

structure Proper (q : Text × Nat) : Prop where
  framed : ∃ body, q.1 = '$' :: body ++ '*' :: hex (checksum body) ++ ['\r', '\n']
  length : q.2 = q.1.length
  bound : q.2 ≤ sentenceMaxLength

theorem putChecksum_proper {t : Text} (hhead : t.head? = some '$') (hlen : t.length + 5 < sentenceMaxLength) :
    Proper (putChecksum t sentenceMaxLength) := by
  obtain ⟨body, rfl⟩ : ∃ body, t = '$' :: body := by
    cases t with
    | nil => cases hhead
    | cons ch body => exact ⟨body, by rw [Option.some.inj hhead]⟩
  have hbody : body.length + 1 + 5 < 200 := hlen
  have htake : ('*' :: hex (checksum body) ++ ['\r', '\n']).take (sentenceMaxLength - body.length - 1 - 1) =
      '*' :: hex (checksum body) ++ ['\r', '\n'] := List.take_of_length_le (by
    show 5 ≤ 200 - body.length - 1 - 1
    omega)
  have hput : putChecksum ('$' :: body) sentenceMaxLength =
      ('$' :: body ++ ('*' :: hex (checksum body) ++ ['\r', '\n']), body.length + 5 + 1) := by
    unfold putChecksum
    dsimp only
    rw [List.drop_one, List.tail_cons, htake]
    rfl
  rw [hput]
  refine ⟨⟨body, by simp⟩, ?_, ?_⟩
  · simp only [List.length_append, List.length_cons, List.length_nil]
    show _ = body.length + 1 + (2 + 1 + 2)
    omega
  · show body.length + 5 + 1 ≤ 200
    omega

theorem length_of_proper {t : Text} (h : Proper (putChecksum t sentenceMaxLength)) (hhead : t.head? = some '$') :
    t.length + 5 < sentenceMaxLength := by
  obtain ⟨body, rfl⟩ : ∃ body, t = '$' :: body := by
    cases t with
    | nil => cases hhead
    | cons ch body => exact ⟨body, by rw [Option.some.inj hhead]⟩
  have hlen := h.length
  simp only [putChecksum, List.drop_one, List.tail_cons, List.length_append, List.length_take, List.length_cons,
    List.length_nil] at hlen ⊢
  change body.length + (2 + 1 + 2) + 1 = body.length + 1 + min (200 - body.length - 1 - 1) (2 + 1 + 2) at hlen
  show body.length + 1 + 5 < 200
  omega

theorem foldlM_append (l : List Text) {s : Text} (hs : s.length < sentenceMaxLength) :
    l.foldlM append s = if s.length + l.flatten.length < sentenceMaxLength then some (s ++ l.flatten) else none := by
  induction l generalizing s with
  | nil =>
    rw [List.flatten_nil, List.length_nil, Nat.add_zero, if_pos hs, List.append_nil]
    rfl
  | cons more l ih =>
    rw [List.foldlM_cons, List.flatten_cons, List.length_append]
    by_cases hfit : s.length + more.length < sentenceMaxLength
    · have hlen : (s ++ more).length < sentenceMaxLength := by rwa [List.length_append]
      rw [append_fits hfit, Option.bind_eq_bind, Option.bind_some, ih hlen, List.length_append, Nat.add_assoc,
        List.append_assoc]
    · rw [if_neg (by omega), append, if_pos (by omega)]
      rfl

theorem build_eq (s : Draft) : s.build = if s.checked.flatten.length < sentenceMaxLength then
    some (s.text.take (sentenceMaxLength - 1)) else none := by
  have hfold := foldlM_append s.checked (s := []) (by decide)
  rw [List.length_nil, Nat.zero_add, List.nil_append] at hfold
  rw [Draft.build, hfold]
  by_cases hfit : s.checked.flatten.length < sentenceMaxLength
  · have hchecked : s.checked.flatten.take (sentenceMaxLength - 1) = s.checked.flatten :=
      List.take_of_length_le (Nat.le_sub_one_of_lt hfit)
    rw [if_pos hfit, if_pos hfit, Option.map_some, Draft.text, List.take_append, hchecked, Nat.sub_right_comm]
  · rw [if_neg hfit, if_neg hfit]
    rfl

def sent : List Draft → List (Text × Nat)
  | [] => []
  | s :: rest =>
    match s.build with
    | none => []
    | some t => putChecksum t sentenceMaxLength :: sent rest

theorem report_sent (l : List Draft) (d : LocEngData) : (report l d).1 = d.report (sent l) := by
  induction l generalizing d with
  | nil => exact (report_nil d).symm
  | cons s rest ih =>
    rw [report, sent]
    cases s.build with
    | none => exact (report_nil d).symm
    | some t =>
      dsimp only
      rw [ih, finish_report, report_report]
      rfl

def Roomy : List Draft → Prop
  | [] => True
  | s :: rest =>
    s.checked.flatten.length < sentenceMaxLength → s.text.length + 5 < sentenceMaxLength ∧ Roomy rest

theorem sent_proper_iff {l : List Draft} (h : ∀ s ∈ l, s.text.head? = some '$') :
    (∀ q ∈ sent l, Proper q) ↔ Roomy l := by
  induction l with
  | nil => exact ⟨fun _ => trivial, fun _ => nofun⟩
  | cons s rest ih =>
    have hrest := ih fun t ht => h t (List.mem_cons_of_mem s ht)
    rw [sent, build_eq, Roomy]
    by_cases hfit : s.checked.flatten.length < sentenceMaxLength
    · have hhead : (s.text.take (sentenceMaxLength - 1)).head? = some '$' := by
        rw [List.head?_take, if_neg (by decide)]
        exact h s (List.mem_cons_self ..)
      rw [if_pos hfit, imp_iff_right hfit, List.forall_mem_cons, hrest]
      refine and_congr_left' ⟨fun hp => ?_, fun hlen => ?_⟩
      · have hlen := length_of_proper hp hhead
        rw [List.length_take] at hlen
        change min 199 s.text.length + 5 < 200 at hlen
        show s.text.length + 5 < 200
        omega
      · rw [List.take_of_length_le (by
          change s.text.length + 5 < 200 at hlen
          show s.text.length ≤ 200 - 1
          omega)] at hhead ⊢
        exact putChecksum_proper hhead hlen
    · rw [if_neg hfit]
      exact ⟨fun _ h => absurd h hfit, fun _ => nofun⟩

def posDrafts (fixed1 : UInt32 → Text) (p : PosReport) (generateNmea : Bool) (d : LocEngData) : List Draft :=
  match p.utc with
  | none => []
  | some tm =>
    if generateNmea then
      [gsa fixed1 gpgsa (usedList 0 1 0 d.gpsUsedMask) p d,
        gsa fixed1 gngsa (usedList glonassSvIdOffset 1 0 d.gloUsedMask) p d, gpvtg p, gprmc tm p,
        gpgga fixed1 tm (usedList 0 1 0 d.gpsUsedMask).length p d]
    else blankDrafts

theorem posDrafts_headed {fixed1 : UInt32 → Text} {p : PosReport} {generateNmea : Bool} {d : LocEngData} :
    ∀ s ∈ posDrafts fixed1 p generateNmea d, s.text.head? = some '$' := by
  unfold posDrafts
  cases p.utc with
  | none => exact nofun
  | some tm =>
    cases generateNmea with
    | false =>
      show ∀ s ∈ blankDrafts, s.text.head? = some '$'
      decide
    | true =>
      simp only [if_true, List.forall_mem_cons]
      refine ⟨rfl, rfl, ?_, rfl, rfl, nofun⟩
      cases hb : p.bearing with
      | none => simp [Draft.text, gpvtg, hb]
      | some bearing => simp [Draft.text, gpvtg, hb]

@[simp] theorem report_nmeaCb (d : LocEngData) (l : List (Text × Nat)) : (d.report l).nmeaCb = d.nmeaCb := by
  unfold LocEngData.report
  split_ifs <;> rfl

theorem report_reported (d : LocEngData) (l : List (Text × Nat)) :
    (d.report l).reported = d.reported ++ if d.nmeaCb then l else [] := by
  unfold LocEngData.report
  split_ifs
  · rfl
  · rw [List.append_nil]

theorem report_single {s : Draft} {t : Text} (h : s.build = some t) (d : LocEngData) :
    report [s] d = (d.report [putChecksum t sentenceMaxLength], true) := by
  rw [report, h]
  rfl

theorem rest_reported (rest : List Draft) (d : LocEngData) :
    (if !(report rest d).2 then (report rest d).1 else { (report rest d).1 with dop := {} }).reported =
      d.reported ++ if d.nmeaCb then sent rest else [] := by
  rw [← report_reported, ← report_sent]
  split_ifs <;> rfl

theorem generatePos_reported (fixed1 : UInt32 → Text) (p : PosReport) (generateNmea : Bool) (d : LocEngData) :
    (generatePos fixed1 p generateNmea d).reported =
      d.reported ++ if d.nmeaCb then sent (posDrafts fixed1 p generateNmea d) else [] := by
  unfold generatePos posDrafts
  cases p.utc with
  | none => exact (List.append_nil _).symm.trans (congrArg _ (ite_self _).symm)
  | some tm =>
    cases generateNmea with
    | false =>
      show (report blankDrafts d).1.reported = _
      rw [report_sent]
      exact report_reported ..
    | true =>
      dsimp only
      rw [if_pos rfl, if_pos rfl]
      generalize gsa fixed1 gpgsa (usedList 0 1 0 d.gpsUsedMask) p d = s
      generalize [gsa fixed1 gngsa _ p d, gpvtg p, gprmc tm p, gpgga fixed1 tm _ p d] = rest
      rw [sent]
      cases hs : s.build with
      | none =>
        rw [report, hs]
        exact (List.append_nil _).symm.trans (congrArg _ (ite_self _).symm)
      | some t =>
        rw [report_single hs]
        refine (rest_reported rest _).trans ?_
        show (LocEngData.report _ _).reported ++ (if (LocEngData.report _ _).nmeaCb then sent rest else []) = _
        rw [report_nmeaCb, report_reported]
        cases hcb : d.nmeaCb with
        | false => simp
        | true => simp

theorem entries_length (page : List Sv) : (page.flatMap entry).length ≤ 43 * page.length := by
  induction page with
  | nil => exact Nat.le_refl 0
  | cons sv rest ih =>
    have hlen := entry_length sv
    rw [List.flatMap_cons, List.length_append, List.length_cons]
    omega

theorem pageText_length {talker : Text} {count svCount number : Nat} {page : List Sv} (ht : talker.length = 5)
    (hcount : count < 100) (hsv : svCount < 100) (hnumber : number < 100) (hpage : page.length ≤ 4) :
    (pageText talker count svCount number page).length + 5 < sentenceMaxLength := by
  have hhead := header_length ht hcount hnumber hsv
  have hentries := entries_length page
  rw [pageText, List.length_append]
  show _ < 200
  omega

theorem gsv_proper {talker : Text} (ht : talker.length = 5) (c : Constellation) (r : SvStatus) :
    ∀ q ∈ gsv talker (r.pages c), Proper q := by
  have hpages := pages_paginated c r
  have hsv := visible_length c r
  have hcount := hpages.length
  unfold gsv
  split_ifs
  · intro q hq
    rw [List.mem_singleton.mp hq]
    refine putChecksum_proper rfl ?_
    rw [List.length_append, List.length_cons, ht]
    decide
  · intro q hq
    obtain ⟨k, hk, rfl⟩ := List.mem_mapIdx.mp hq
    rw [hpages.flatten]
    refine putChecksum_proper rfl (pageText_length ht (by omega) hsv (by omega) ?_)
    exact (hpages.short _ (List.getElem_mem hk)).2

/-- What a report of satellites has the callback given is proper. What a report of the position has it given is so
just if each sentence that is put together has room for its checksum. -/
theorem sentences_proper_iff (shl : Int → UInt32) (r : SvStatus) (dop : Option Dop) (fixed1 : UInt32 → Text)
    (p : PosReport) (generateNmea : Bool) (d : LocEngData) :
    (∃ l, (generateSv shl r dop d).reported = d.reported ++ l ∧ ∀ q ∈ l, Proper q) ∧
      ((∃ l, (generatePos fixed1 p generateNmea d).reported = d.reported ++ l ∧ ∀ q ∈ l, Proper q) ↔
        (d.nmeaCb = true → Roomy (posDrafts fixed1 p generateNmea d))) := by
  constructor
  · refine ⟨_, generateSv_reported shl r dop d, ?_⟩
    split_ifs
    · intro q hq
      exact (List.mem_append.mp hq).elim (gsv_proper rfl _ r q) (gsv_proper rfl _ r q)
    · exact nofun
  · rw [generatePos_reported, ← sent_proper_iff posDrafts_headed]
    constructor
    · rintro ⟨l, hl, hproper⟩ hcb
      rw [if_pos hcb] at hl
      exact List.append_cancel_left hl ▸ hproper
    · intro h
      refine ⟨_, rfl, ?_⟩
      split_ifs with hcb
      · exact h hcb
      · exact nofun

def highReport : PosReport where
  utc := some ⟨70, 0, 1, 0, 0, 0⟩
  timestamp := 0
  latLong := none
  speed := none
  bearing := none
  altitude := some (List.replicate 300 '9' ++ ".0".toList)
  altitudeMeanSeaLevel := some "0.0".toList
  magneticDeviation := none
  dop := none
  standalone := true

/-- The checksum of the last sentence gets lost, and its length is too large. -/
theorem checksum_cut_off : ¬∀ (fixed1 : UInt32 → Text) (p : PosReport) (d : LocEngData),
    ∃ l, (generatePos fixed1 p true d).reported = d.reported ++ l ∧ ∀ q ∈ l, Proper q := by
  intro h
  obtain ⟨l, hl, hproper⟩ := h (fun _ => []) highReport { nmeaCb := true }
  rw [generatePos_reported] at hl
  have hroom := (sent_proper_iff posDrafts_headed).mp (List.append_cancel_left hl ▸ hproper)
  have hnone : ∀ offset, usedList offset 1 0 0 = [] := fun offset => by
    rw [usedList]
    rfl
  simp only [posDrafts, highReport, hnone, if_true, Roomy] at hroom
  have hgga := (((hroom (by decide)).2 (by decide)).2 (by decide)).2 (by decide)
  have hlong : ∀ s : Draft, s.last = List.replicate 300 '9' ++ ".0".toList ++ ",M,,".toList →
      ¬s.text.length + 5 < sentenceMaxLength := by
    intro s hlast hshort
    rw [Draft.text, hlast, List.append_assoc, List.length_append, List.length_append, List.length_replicate] at hshort
    change _ < 200 at hshort
    omega
  exact hlong _ rfl (hgga.2 (by decide)).1

end Wt88047.Nmea
