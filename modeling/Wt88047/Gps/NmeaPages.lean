import Wt88047.Gps.Nmea
import Wt88047.Lib.Pages

/-! The GSV sentences are the pages of the satellites of a constellation. -/

namespace Wt88047.Nmea

open Pages

def entry (sv : Sv) : Text :=
  ',' :: decimal 2 sv.svid.toInt ++ ',' :: decimal 2 sv.elevation.toInt ++
    ',' :: decimal 3 sv.azimuth.toInt ++ [','] ++ if sv.cN0Positive then decimal 2 sv.cN0.toInt else []

def pageText (talker : Text) (sentenceCount svCount sentenceNumber : Nat) (p : List Sv) : Text :=
  header talker sentenceCount sentenceNumber svCount ++ p.flatMap entry

def numbered (talker : Text) (ps : List (List Sv)) : List (Text × Nat) :=
  ps.mapIdx fun k p => putChecksum (pageText talker ps.length ps.flatten.length (k + 1) p) sentenceMaxLength

def gsv (talker : Text) (ps : List (List Sv)) : List (Text × Nat) :=
  if ps = [] then [putChecksum ('$' :: talker ++ ",1,1,0,".toList) sentenceMaxLength]
  else numbered talker ps

theorem decimal_length {w k : Nat} {v : Int} (hk : 0 < k) (h : v.natAbs < 10 ^ k) :
    (decimal w v).length ≤ max w (k + 1) := by
  have hdigits : v.natAbs.repr.toList.length ≤ k := by
    rw [Nat.toList_repr]
    exact (Nat.length_toDigits_le_iff (by decide) hk).mpr h
  unfold decimal
  generalize v.natAbs.repr.toList = digits at hdigits
  dsimp only
  by_cases hneg : v < 0
  · rw [if_pos hneg, List.length_cons, List.length_append, List.length_replicate]
    omega
  · rw [if_neg hneg, List.length_append, List.length_replicate]
    omega

theorem int32_length (w : Nat) (v : Int32) : (decimal w v.toInt).length ≤ max w 11 := by
  have hlo := v.le_toInt
  have hhi := v.toInt_lt
  exact decimal_length (by decide) (by omega)

theorem entry_length (sv : Sv) : (entry sv).length ≤ 43 := by
  have hsvid : (decimal 2 sv.svid.toInt).length ≤ 6 := by
    have hlo := sv.svid.le_toInt
    have hhi := sv.svid.toInt_lt
    exact decimal_length (k := 5) (by decide) (by omega)
  have helevation := int32_length 2 sv.elevation
  have hazimuth := int32_length 3 sv.azimuth
  have hcN0 := int32_length 2 sv.cN0
  unfold entry
  split_ifs <;> simp <;> omega

theorem append_fits {s more : Text} (h : s.length + more.length < sentenceMaxLength) :
    append s more = some (s ++ more) := if_neg (by omega)

theorem appendSv_fits {s : Text} {sv : Sv} (h : s.length + 43 < sentenceMaxLength) :
    appendSv sv s = some (s ++ entry sv) := by
  have hlen := entry_length sv
  unfold entry at hlen ⊢
  unfold appendSv
  generalize ',' :: decimal 2 sv.svid.toInt ++ ',' :: decimal 2 sv.elevation.toInt ++
    ',' :: decimal 3 sv.azimuth.toInt ++ [','] = fields at hlen ⊢
  rw [List.length_append] at hlen
  rw [append_fits (by omega)]
  by_cases hc : sv.cN0Positive = true
  · rw [if_pos hc] at hlen ⊢
    show (if sv.cN0Positive = true then _ else _) = _
    rw [if_pos hc, append_fits (by rw [List.length_append]; omega), List.append_assoc]
  · rw [if_neg hc, List.append_nil]
    exact if_neg hc

theorem fill_takes {c : Constellation} {rest : List Sv} {i : Nat} {s : Text} (hi : i ≤ 4)
    (h : s.length + 43 * (4 - i) < sentenceMaxLength) :
    ∃ left, fill c rest i s =
        some (s ++ ((rest.filter (·.constellation = c)).take (4 - i)).flatMap entry, left) ∧
      left.filter (·.constellation = c) = (rest.filter (·.constellation = c)).drop (4 - i) := by
  induction rest generalizing i s with
  | nil => exact ⟨[], by simp [fill], by simp⟩
  | cons sv rest ih =>
    by_cases hfull : i < 4
    · by_cases hc : sv.constellation = c
      · obtain ⟨k, hk⟩ : ∃ k, 4 - i = k + 1 := ⟨3 - i, by omega⟩
        have hnext : 4 - (i + 1) = k := by omega
        have hlen := entry_length sv
        obtain ⟨left, hrun, hleft⟩ := @ih (i + 1) (s ++ entry sv) (by omega)
          (by rw [List.length_append, hnext]; omega)
        refine ⟨left, ?_, ?_⟩
        · rw [fill, if_pos hfull, if_pos hc, appendSv_fits (by omega), Option.bind_some, hrun, hnext, hk,
            List.filter_cons_of_pos (by simpa using hc), List.take_succ_cons, List.flatMap_cons,
            List.append_assoc]
        · rw [hleft, hnext, hk, List.filter_cons_of_pos (by simpa using hc), List.drop_succ_cons]
      · obtain ⟨left, hrun, hleft⟩ := ih hi h
        refine ⟨left, ?_, ?_⟩
        · rw [fill, if_pos hfull, if_neg hc, hrun, List.filter_cons_of_neg (by simpa using hc)]
        · rw [hleft, List.filter_cons_of_neg (by simpa using hc)]
    · obtain rfl : i = 4 := by omega
      exact ⟨sv :: rest, by simp [fill], by simp⟩

def LocEngData.report (d : LocEngData) (l : List (Text × Nat)) : LocEngData :=
  if d.nmeaCb then { d with reported := d.reported ++ l } else d

theorem report_nil (d : LocEngData) : d.report [] = d := by
  unfold LocEngData.report
  split_ifs
  · rw [List.append_nil]
  · rfl

theorem report_report (d : LocEngData) (l k : List (Text × Nat)) :
    (d.report l).report k = d.report (l ++ k) := by
  unfold LocEngData.report
  by_cases hcb : d.nmeaCb = true
  · simp [hcb]
  · simp [hcb]

theorem finish_report (s : Text) (d : LocEngData) :
    finish s d = d.report [putChecksum s sentenceMaxLength] := rfl

theorem header_length {talker : Text} {count number svCount : Nat} (ht : talker.length = 5)
    (hcount : count < 100) (hnumber : number < 100) (hsv : svCount < 100) :
    (header talker count number svCount).length ≤ 18 := by
  have hshort (w : Nat) {n : Nat} (hn : n < 100) : (decimal w n).length ≤ max w 3 :=
    decimal_length (k := 2) (by decide) (by simpa using hn)
  have h1 := hshort 0 hcount
  have h2 := hshort 0 hnumber
  have h3 := hshort 2 hsv
  unfold header
  simp only [List.length_cons, List.length_append]
  omega

theorem sentences_report {talker : Text} {c : Constellation} {count svCount : Nat} (ht : talker.length = 5)
    (hcount : count < 100) (hsv : svCount < 100) {l : List Sv} :
    ∀ {left number : Nat} {rest : List Sv} {d : LocEngData}, number + left < 100 →
      rest.filter (·.constellation = c) = l.drop (4 * number) →
      sentences talker c count svCount left (number + 1) rest d =
        (d.report ((List.range left).map fun k => putChecksum
          (pageText talker count svCount (number + k + 1) (page 4 l (number + k))) sentenceMaxLength), true)
  | 0, number, rest, d, _, _ => by
    rw [List.range_zero, List.map_nil, report_nil]
    rfl
  | left + 1, number, rest, d, hn, hrest => by
    have hhead := header_length ht hcount (show number + 1 < 100 by omega) hsv
    obtain ⟨rest', hfill, hleft⟩ := @fill_takes c rest 0
      (header talker count (number + 1) svCount) (by decide) (by show _ + 43 * (4 - 0) < 200; omega)
    have happend : append [] (header talker count (number + 1) svCount) =
        some (header talker count (number + 1) svCount) := append_fits (by show 0 + _ < 200; omega)
    have hpage : (rest.filter (·.constellation = c)).take (4 - 0) = page 4 l number := by
      rw [hrest]
      rfl
    have hnext : rest'.filter (·.constellation = c) = l.drop (4 * (number + 1)) := by
      rw [hleft, hrest, List.drop_drop, Nat.mul_succ]
    rw [sentences, happend, Option.bind_some, hfill, hpage]
    dsimp only
    rw [sentences_report ht hcount hsv (by omega) hnext, finish_report, report_report,
      List.range_succ_eq_map, List.map_cons, List.map_map]
    refine congrArg (fun k => (d.report (_ :: k), true)) (List.map_congr_left fun k _ => ?_)
    show putChecksum (pageText talker count svCount (number + 1 + k + 1) (page 4 l (number + 1 + k))) _ =
      putChecksum (pageText talker count svCount (number + (k + 1) + 1) (page 4 l (number + (k + 1)))) _
    rw [Nat.add_assoc number 1 k, Nat.add_comm 1 k]

theorem visible_length (c : Constellation) (r : SvStatus) : (r.visible c).length < 100 := by
  have hle := List.length_filter_le (fun sv : Sv => decide (sv.constellation = c)) r.gnssSvList
  have hmax := r.numSvs_le
  unfold SvStatus.visible
  exact Nat.lt_of_le_of_lt (Nat.le_trans hle hmax) (by decide)

def SvStatus.pages (c : Constellation) (r : SvStatus) : List (List Sv) :=
  Pages.pages 4 (((r.visible c).length + 3) / 4) (r.visible c)

theorem pages_paginated (c : Constellation) (r : SvStatus) :
    Paginated 4 (r.visible c) (r.pages c) := paginated (by decide)

theorem numbered_pages (talker : Text) (c : Constellation) (r : SvStatus) :
    numbered talker (r.pages c) = (List.range (((r.visible c).length + 3) / 4)).map fun k =>
      putChecksum (pageText talker (((r.visible c).length + 3) / 4) (r.visible c).length (k + 1)
        (page 4 (r.visible c) k)) sentenceMaxLength := by
  have h := pages_paginated c r
  have hcount : (r.pages c).length = ((r.visible c).length + 3) / 4 := h.length
  unfold numbered
  rw [h.flatten, hcount]
  refine List.ext_getElem (by simp [hcount]) fun k hk hk' => ?_
  simp [SvStatus.pages, Pages.pages]

theorem generateGsv_report {talker : Text} (ht : talker.length = 5) (c : Constellation) (r : SvStatus)
    (d : LocEngData) : generateGsv talker c r d = (d.report (gsv talker (r.pages c)), true) := by
  have hlt := visible_length c r
  have hcount := (pages_paginated c r).length
  have hlist : r.gnssSvList.filter (·.constellation = c) = r.visible c := rfl
  unfold generateGsv gsv
  dsimp only
  rw [hlist]
  by_cases hzero : (r.visible c).length = 0
  · have hnil : r.pages c = [] := List.length_eq_zero_iff.mp (by rw [hcount]; omega)
    rw [if_pos hzero, if_pos hnil]
    rfl
  · have hne : r.pages c ≠ [] := by
      intro hnil
      rw [hnil, List.length_nil] at hcount
      omega
    have hceil : (r.visible c).length / 4 + (if (r.visible c).length % 4 ≠ 0 then 1 else 0) =
        ((r.visible c).length + 3) / 4 := by
      split_ifs <;> omega
    have hrun := @sentences_report talker c (((r.visible c).length + 3) / 4) (r.visible c).length ht
      (by omega) hlt (r.visible c) (((r.visible c).length + 3) / 4) 0 r.gnssSvList d (by omega) hlist
    rw [if_neg hzero, if_neg hne, hceil, hrun, numbered_pages]
    simp

theorem generateSv_reported (shl : Int → UInt32) (r : SvStatus) (dop : Option Dop) (d : LocEngData) :
    (generateSv shl r dop d).reported =
      d.reported ++ if d.nmeaCb then gsv gpgsv (r.pages .gps) ++ gsv glgsv (r.pages .glonass) else [] := by
  unfold generateSv
  dsimp only
  rw [generateGsv_report rfl]
  dsimp only
  rw [if_neg (by decide), generateGsv_report rfl, report_report]
  unfold LocEngData.report
  by_cases hcb : d.nmeaCb = true
  · simp [hcb]
  · simp [hcb]

/-- The callback is given the pages of the GPS satellites, then those of GLONASS. -/
theorem satellites_paginated (shl : Int → UInt32) (r : SvStatus) (dop : Option Dop) (d : LocEngData) :
    ∃ gps glonass, Paginated 4 (r.visible .gps) gps ∧ Paginated 4 (r.visible .glonass) glonass ∧
      (generateSv shl r dop d).reported =
        d.reported ++ if d.nmeaCb then gsv gpgsv gps ++ gsv glgsv glonass else [] :=
  ⟨r.pages .gps, r.pages .glonass, pages_paginated _ r, pages_paginated _ r, generateSv_reported shl r dop d⟩

/-- Without satellites there is still a sentence. -/
theorem blank_sentence_announced : ¬∀ (shl : Int → UInt32) (r : SvStatus) (d : LocEngData),
    ∃ gps glonass, Paginated 4 (r.visible .gps) gps ∧ Paginated 4 (r.visible .glonass) glonass ∧
      (generateSv shl r none d).reported =
        d.reported ++ if d.nmeaCb then numbered gpgsv gps ++ numbered glgsv glonass else [] := by
  intro h
  obtain ⟨gps, glonass, hgps, hglonass, hreport⟩ := h (fun _ => 0) ⟨[], by decide⟩ { nmeaCb := true }
  obtain rfl : gps = [] := List.length_eq_zero_iff.mp hgps.length
  obtain rfl : glonass = [] := List.length_eq_zero_iff.mp hglonass.length
  have hlen := congrArg List.length hreport
  exact absurd hlen (by decide)

end Wt88047.Nmea
