import Mathlib.Data.List.Forall2
import Wt88047.Gps.LocEngReports
import Wt88047.Gps.UsedSatellites

/-! The satellites that a report marks as used in the fix, against the masks of the last position. The masks
have 64 bits; the bit of a satellite is made as an int. -/

namespace Wt88047.LocEng

open Nmea

/-- Only the flag is changed, and a satellite in the width of its mask has it exactly if its bit is set. -/
structure Marked (mask : UInt64) (sv sv' : GnssSvInfo) : Prop where
  others : sv' = { sv with flags := sv'.flags }
  flags : sv'.flags ||| usedInFix = sv.flags ||| usedInFix
  used : 1 ≤ sv.svid.toInt → sv.svid.toInt ≤ 64 →
    (sv'.flags &&& usedInFix ≠ 0 ↔ mask.toNat.testBit (sv.svid.toInt - 1).toNat = true)

/-- The shift has the bit of the satellite, or the mask does not tell the difference. -/
def BitFits (mask : UInt64) (svid : Int) : Prop :=
  31 < svid → svid ≤ 64 →
    mask.toNat = 0 ∨ svid = 32 ∧ (mask.toNat < 2 ^ 31 ∨ mask.toNat.testBit 31 = true)

theorem extend_testBit (v : UInt32) (k : Nat) :
    (extend v).toNat.testBit k = (decide (k < 64) && if k < 32 then v.toNat.testBit k else v.toNat.testBit 31) := by
  have hbits : (extend v).toBitVec = v.toBitVec.signExtend 64 := rfl
  rw [← UInt64.toNat_toBitVec, hbits, ← BitVec.getLsbD, BitVec.getLsbD_signExtend, BitVec.msb_eq_getLsbD_last]
  rfl

theorem and_ne_zero_iff (a b : UInt64) :
    a &&& b ≠ 0 ↔ ∃ k, a.toNat.testBit k = true ∧ b.toNat.testBit k = true := by
  rw [ne_eq, ← UInt64.toNat_inj, UInt64.toNat_and]
  constructor
  · intro h
    obtain ⟨k, hk⟩ := Nat.exists_testBit_of_ne_zero h
    rw [Nat.testBit_and, Bool.and_eq_true] at hk
    exact ⟨k, hk⟩
  · rintro ⟨k, ha, hb⟩ h
    have hk : (a.toNat &&& b.toNat).testBit k = true := by rw [Nat.testBit_and, ha, hb]; rfl
    rw [h] at hk
    simp at hk

theorem flags_facts (f : UInt8) :
    (f ||| usedInFix) &&& usedInFix ≠ 0 ∧ (f &&& ~~~usedInFix) &&& usedInFix = 0 ∧
      (f ||| usedInFix) ||| usedInFix = f ||| usedInFix ∧ (f &&& ~~~usedInFix) ||| usedInFix = f ||| usedInFix := by
  have hall : ∀ b : BitVec 8, (b ||| 4#8) &&& 4#8 ≠ 0#8 ∧ (b &&& ~~~4#8) &&& 4#8 = 0#8 ∧
      (b ||| 4#8) ||| 4#8 = b ||| 4#8 ∧ (b &&& ~~~4#8) ||| 4#8 = b ||| 4#8 := by decide
  obtain ⟨hset, hclear, hkeep, hkeep'⟩ := hall f.toBitVec
  exact ⟨fun h => hset (congrArg UInt8.toBitVec h), UInt8.toBitVec_inj.mp hclear, UInt8.toBitVec_inj.mp hkeep,
    UInt8.toBitVec_inj.mp hkeep'⟩

variable {shl : Int → UInt32} {used : GnssSvUsedInPosition} {sv : GnssSvInfo}

theorem markSv_used : (markSv shl used sv).flags &&& usedInFix ≠ 0 ↔
    ∃ k, (svUsedIdMask used sv.constellation).toNat.testBit k = true ∧
      (extend (shl (sv.svid.toInt - 1))).toNat.testBit k = true := by
  obtain ⟨hset, hclear, -, -⟩ := flags_facts sv.flags
  rw [← and_ne_zero_iff, markSv]
  split
  case isTrue h => exact iff_of_true hset h
  case isFalse h => exact iff_of_false (fun hne => hne hclear) h

theorem markSv_others : markSv shl used sv = { sv with flags := (markSv shl used sv).flags } ∧
    (markSv shl used sv).flags ||| usedInFix = sv.flags ||| usedInFix := by
  obtain ⟨-, -, hkeep, hkeep'⟩ := flags_facts sv.flags
  rw [markSv]
  split
  case isTrue => exact ⟨rfl, hkeep⟩
  case isFalse => exact ⟨rfl, hkeep'⟩

theorem extend_shl_testBit (hshl : IsShl shl) {svid : Int} (hlo : 1 ≤ svid) (hhi : svid ≤ 32) {k : Nat} :
    (extend (shl (svid - 1))).toNat.testBit k = true ↔ svid = k + 1 ∨ svid = 32 ∧ 32 ≤ k ∧ k < 64 := by
  rw [extend_testBit, Bool.and_eq_true, decide_eq_true_iff]
  by_cases hk : k < 32
  · rw [if_pos hk, shl_testBit hshl hlo hhi]
    omega
  · rw [if_neg hk, shl_testBit hshl hlo hhi]
    omega

theorem exists_high_bit_iff {mask : Nat} (hlt : mask < 2 ^ 64) :
    (∃ k, mask.testBit k = true ∧ 31 ≤ k ∧ k < 64) ↔ 2 ^ 31 ≤ mask := by
  constructor
  · rintro ⟨k, hk, hlo, -⟩
    exact (Nat.pow_le_pow_right (by decide) hlo).trans (Nat.ge_two_pow_of_testBit hk)
  · intro h
    obtain ⟨k, hlo, hk⟩ := Nat.exists_ge_and_testBit_of_ge_two_pow h
    refine ⟨k, hk, hlo, ?_⟩
    by_contra hhi
    rw [Nat.testBit_lt_two_pow (hlt.trans_le (Nat.pow_le_pow_right (by decide) (by omega)))] at hk
    cases hk

theorem markSv_used_of_le (hshl : IsShl shl) (hlo : 1 ≤ sv.svid.toInt) (hhi : sv.svid.toInt ≤ 32) :
    (markSv shl used sv).flags &&& usedInFix ≠ 0 ↔
      if sv.svid.toInt = 32 then 2 ^ 31 ≤ (svUsedIdMask used sv.constellation).toNat
      else (svUsedIdMask used sv.constellation).toNat.testBit (sv.svid.toInt - 1).toNat = true := by
  simp only [markSv_used, extend_shl_testBit hshl hlo hhi]
  split
  case isTrue h32 =>
    rw [← exists_high_bit_iff (svUsedIdMask used sv.constellation).toNat_lt]
    refine exists_congr fun k => and_congr_right fun _ => ?_
    omega
  case isFalse hne =>
    constructor
    · rintro ⟨k, hk, hsv⟩
      rwa [show (sv.svid.toInt - 1).toNat = k by omega]
    · intro hk
      exact ⟨_, hk, Or.inl (by omega)⟩

theorem markSv_used_of_gt (hhi : 32 < sv.svid.toInt) :
    (markSv (shlElse 0) used sv).flags &&& usedInFix = 0 ∧
      ((svUsedIdMask used sv.constellation).toNat ≠ 0 →
        (markSv (shlElse 0xffffffff) used sv).flags &&& usedInFix ≠ 0) := by
  constructor
  · by_contra h
    obtain ⟨k, -, hk⟩ := markSv_used.mp h
    rw [shlElse_out _ (by omega), show (extend 0).toNat = 0 from rfl, Nat.zero_testBit] at hk
    cases hk
  · intro hne
    obtain ⟨k, hk⟩ := Nat.exists_testBit_of_ne_zero hne
    refine markSv_used.mpr ⟨k, hk, ?_⟩
    have hlt : k < 64 := by
      by_contra hge
      have hge' := Nat.ge_two_pow_of_testBit hk
      have hpow : 2 ^ 64 ≤ 2 ^ k := Nat.pow_le_pow_right (by decide) (by omega)
      have hmask := (svUsedIdMask used sv.constellation).toNat_lt
      omega
    rw [shlElse_out _ (by omega), show (extend 0xffffffff).toNat = 2 ^ 64 - 1 from rfl, Nat.testBit_two_pow_sub_one]
    exact decide_eq_true hlt

theorem BitFits.marked (h : BitFits (svUsedIdMask used sv.constellation) sv.svid.toInt) (hshl : IsShl shl) :
    Marked (svUsedIdMask used sv.constellation) sv (markSv shl used sv) := by
  refine ⟨markSv_others.1, markSv_others.2, fun hlo hhi => ?_⟩
  by_cases hwide : 32 < sv.svid.toInt
  · rcases h (by omega) hhi with hzero | ⟨h32, -⟩
    · rw [markSv_used, hzero]
      simp
    · omega
  · rw [markSv_used_of_le hshl hlo (by omega)]
    split
    case isTrue h32 =>
      rw [show (sv.svid.toInt - 1).toNat = 31 by omega]
      rcases h (by omega) hhi with hzero | ⟨-, hlt | hbit⟩
      · rw [hzero]
        simp
      · rw [Nat.testBit_lt_two_pow hlt]
        exact iff_of_false (by omega) Bool.false_ne_true
      · exact iff_of_true (Nat.ge_two_pow_of_testBit hbit) hbit
    case isFalse => exact Iff.rfl

theorem BitFits.of_marked (h : ∀ shl, IsShl shl → Marked (svUsedIdMask used sv.constellation) sv (markSv shl used sv)) :
    BitFits (svUsedIdMask used sv.constellation) sv.svid.toInt := by
  intro hlo hhi
  have hused := fun v => (h _ (isShl_shlElse v)).used (by omega) hhi
  by_cases hwide : 32 < sv.svid.toInt
  · left
    obtain ⟨hclear, hset⟩ := @markSv_used_of_gt used _ hwide
    by_contra hne
    exact (hused 0).mpr ((hused 0xffffffff).mp (hset hne)) hclear
  · right
    refine ⟨by omega, ?_⟩
    have h32 := hused 0
    rw [markSv_used_of_le (isShl_shlElse 0) (by omega) (by omega), if_pos (by omega),
      show (sv.svid.toInt - 1).toNat = 31 by omega] at h32
    rcases Nat.lt_or_ge (svUsedIdMask used sv.constellation).toNat (2 ^ 31) with hlt | hge
    · exact Or.inl hlt
    · exact Or.inr (h32.mp hge)

def MarkedAll (used : GnssSvUsedInPosition) (r r' : GnssSvStatus) : Prop :=
  List.Forall₂ (fun sv sv' => Marked (svUsedIdMask used sv.constellation) sv sv') r.gnssSvList r'.gnssSvList

/-- What the framework gets of the report, whatever a shift outside the int gives. -/
def MarksByMasks (used : GnssSvUsedInPosition) (r : GnssSvStatus) : Prop :=
  ∀ shl, IsShl shl → ∀ (dop : Option Dop) (d : Data), d.adapter.gnssSvUsed = some used →
    d.muteSessionState ≠ .inSession → d.gnssSvStatusCb = true →
      ∃ r', (reportSv shl r dop d).calls = d.calls ++ [Call.svStatus r'] ∧ MarkedAll used r r'

theorem reportSv_calls {d : Data} {r : GnssSvStatus} {dop : Option Dop} (hused : d.adapter.gnssSvUsed = some used)
    (hmute : d.muteSessionState ≠ .inSession) (hcb : d.gnssSvStatusCb = true) :
    (reportSv shl r dop d).calls = d.calls ++ [.svStatus (markUsedInFix shl (some used) r)] := by
  simp only [reportSv, if_pos hmute, hused, hcb, ↓reduceIte]
  split <;> rfl

def listening (used : GnssSvUsedInPosition) : Data where
  nmeaCb := false
  adapter := { navigating := true, single := false, gnssSvUsed := some used }
  muteSessionState := .none
  engineStatus := .engineOn
  fixSessionStatus := .sessionBegin
  intermediateFix := 0
  generateNmea := false
  locationCb := true
  gnssSvStatusCb := true
  statusCb := true
  calls := []

theorem MarksByMasks.markedAll {r : GnssSvStatus} (h : MarksByMasks used r) (hshl : IsShl shl) :
    MarkedAll used r (markUsedInFix shl (some used) r) := by
  have hmute : (listening used).muteSessionState ≠ .inSession := fun h => by cases h
  obtain ⟨r', hcalls, hmarked⟩ := h shl hshl none (listening used) rfl hmute rfl
  rw [reportSv_calls rfl hmute rfl] at hcalls
  have hr' := Call.svStatus.inj (List.singleton_inj.mp (List.append_cancel_left hcalls))
  rwa [hr']

theorem used_in_fix_marked_iff (used : GnssSvUsedInPosition) (r : GnssSvStatus) :
    MarksByMasks used r ↔ ∀ sv ∈ r.gnssSvList, BitFits (svUsedIdMask used sv.constellation) sv.svid.toInt := by
  constructor
  · intro h sv hsv
    refine BitFits.of_marked fun shl hshl => ?_
    have hall := h.markedAll hshl
    simp only [MarkedAll, markUsedInFix, List.forall₂_map_right_iff, List.forall₂_same] at hall
    exact hall sv hsv
  · intro h shl hshl dop d hused hmute hcb
    refine ⟨_, reportSv_calls hused hmute hcb, ?_⟩
    simp only [MarkedAll, markUsedInFix, List.forall₂_map_right_iff, List.forall₂_same]
    exact fun sv hsv => (h sv hsv).marked hshl

def usedBeidou37 : GnssSvUsedInPosition where
  gpsSvUsedIdsMask := 0
  gloSvUsedIdsMask := 0
  galSvUsedIdsMask := 0
  bdsSvUsedIdsMask := 0x1000000000

def beidou32 : GnssSvInfo where
  svid := 32
  constellation := beidou
  flags := 0
  elevation := 40
  azimuth := 120
  cN0Positive := true
  cN0 := 30

/-- Satellite 32 is marked, as the sign of its int meets the bit of satellite 37. -/
theorem beidou_32_marked_for_37 : ¬MarksByMasks usedBeidou37 ⟨[beidou32], by decide⟩ := by
  intro h
  have hall : MarkedAll _ _ _ := h.markedAll (isShl_shlElse 0)
  have hused := (List.forall₂_cons.mp hall).1.used (by decide) (by decide)
  have hbit : (svUsedIdMask usedBeidou37 beidou32.constellation).toNat.testBit
      (beidou32.svid.toInt - 1).toNat = false := by decide
  rw [hbit] at hused
  exact Bool.false_ne_true (hused.mp (by decide))

end Wt88047.LocEng
