import Wt88047.Gps.NmeaLengths

/-! The satellites that a report marks as used, from the mask that `loc_eng_nmea_generate_sv` keeps of them to the
GSA sentences of the next position. The mask has 32 bits and the number of a satellite is not checked. -/

namespace Wt88047.Nmea

/-- What is known of `1 << n`, for an int: outside the width it may be anything. -/
def IsShl (shl : Int → UInt32) : Prop := ∀ k < 32, (shl (k : Nat)).toNat = 2 ^ k

def shlElse (v : UInt32) (n : Int) : UInt32 := if 0 ≤ n ∧ n < 32 then UInt32.ofNat (2 ^ n.toNat) else v

theorem toNat_two_pow {k : Nat} (hk : k < 32) : (UInt32.ofNat (2 ^ k)).toNat = 2 ^ k :=
  UInt32.toNat_ofNat_of_lt' (Nat.pow_lt_pow_right (by decide) hk)

theorem isShl_shlElse (v : UInt32) : IsShl (shlElse v) := by
  intro k hk
  rw [shlElse, if_pos ⟨Int.natCast_nonneg k, by omega⟩]
  exact toNat_two_pow hk

theorem shlElse_out (v : UInt32) {n : Int} (hn : n < 0 ∨ 32 ≤ n) : shlElse v n = v := if_neg (by omega)

def SvStatus.Used (r : SvStatus) (c : Constellation) (svid : Int) : Prop :=
  ∃ sv ∈ r.gnssSvList, sv.constellation = c ∧ sv.usedInFix = true ∧ sv.svid.toInt = svid

structure UsedSatellites (r : SvStatus) (c : Constellation) (offset : Nat) (l : List Nat) : Prop where
  ascending : l.Pairwise (· < ·)
  mem : ∀ n, n ∈ l ↔ ∃ svid, 1 ≤ svid ∧ svid ≤ 32 ∧ r.Used c (svid : Nat) ∧ n = svid + offset

theorem usedMask_testBit (shl : Int → UInt32) (c : Constellation) (r : SvStatus) (k : Nat) :
    (usedMask shl c r).toNat.testBit k = true ↔ ∃ sv ∈ r.gnssSvList, (sv.constellation = c ∧ sv.usedInFix = true) ∧
      (shl (sv.svid.toInt - 1)).toNat.testBit k = true := by
  have hfold : ∀ (l : List Sv) (mask : UInt32), (l.foldl (fun mask sv =>
      if sv.constellation = c ∧ sv.usedInFix then mask ||| shl (sv.svid.toInt - 1) else mask) mask).toNat.testBit k =
        true ↔ mask.toNat.testBit k = true ∨ ∃ sv ∈ l, (sv.constellation = c ∧ sv.usedInFix = true) ∧
          (shl (sv.svid.toInt - 1)).toNat.testBit k = true := by
    intro l
    induction l with
    | nil => simp
    | cons sv rest ih =>
      intro mask
      rw [List.foldl_cons, ih, List.exists_mem_cons_iff, ← or_assoc]
      refine or_congr_left ?_
      by_cases hused : sv.constellation = c ∧ sv.usedInFix = true
      · rw [if_pos hused, UInt32.toNat_or, Nat.testBit_or, Bool.or_eq_true, and_iff_right hused]
      · rw [if_neg hused, or_iff_left fun h => hused h.1]
  rw [usedMask, hfold]
  simp

theorem shl_testBit {shl : Int → UInt32} (hshl : IsShl shl) {svid : Int} {k : Nat} (hlo : 1 ≤ svid) (hhi : svid ≤ 32) :
    (shl (svid - 1)).toNat.testBit k = true ↔ svid = k + 1 := by
  obtain ⟨n, hn⟩ : ∃ n : Nat, svid - 1 = n := ⟨(svid - 1).toNat, by omega⟩
  rw [hn, hshl n (by omega), Nat.testBit_two_pow, decide_eq_true_iff]
  omega

theorem usedList_eq {w : Nat} {mask : UInt32} (hmask : mask.toNat < 2 ^ w) (offset i : Nat) {count : Nat}
    (hcount : count + w ≤ 32) :
    usedList offset i count mask = ((List.range w).filter mask.toNat.testBit).map (· + (i + offset)) := by
  induction w generalizing mask i count with
  | zero =>
    have hzero : ¬0 < mask := fun h => by
      have hpos : 0 < mask.toNat := h
      omega
    rw [usedList, if_neg fun h => hzero h.1]
    rfl
  | succ w ih =>
    have hhalf : (mask >>> 1).toNat = mask.toNat / 2 := by
      rw [UInt32.toNat_shiftRight]
      rfl
    have hbits : ∀ k, mask.toNat.testBit (k + 1) = (mask >>> 1).toNat.testBit k := fun k => by
      rw [hhalf, Nat.testBit_succ]
    have hrest : ∀ c, c + w ≤ 32 → usedList offset (i + 1) c (mask >>> 1) =
        (((List.range w).map Nat.succ).filter mask.toNat.testBit).map (· + (i + offset)) := by
      intro c hc
      rw [ih (by rw [hhalf]; omega) (i + 1) hc, List.filter_map, List.map_map]
      refine congr (congrArg _ (funext fun k => ?_)) (List.filter_congr fun k _ => ?_)
      · show k + (i + 1 + offset) = k + 1 + (i + offset)
        omega
      · exact (hbits k).symm
    have hlow : (mask &&& 1 ≠ 0) ↔ mask.toNat.testBit 0 = true := by
      rw [Nat.testBit_zero, decide_eq_true_iff, ne_eq, ← UInt32.toNat_inj, UInt32.toNat_and]
      show ¬mask.toNat &&& 1 = 0 ↔ _
      rw [Nat.and_one_is_mod]
      omega
    rw [usedList, List.range_succ_eq_map]
    by_cases hpos : 0 < mask
    · rw [if_pos ⟨hpos, by omega⟩]
      by_cases hodd : mask.toNat.testBit 0 = true
      · rw [if_pos (hlow.mpr hodd), hrest _ (by omega), List.filter_cons_of_pos hodd, List.map_cons, Nat.zero_add]
      · rw [if_neg fun h => hodd (hlow.mp h), hrest _ (by omega), List.filter_cons_of_neg hodd]
    · have hzero : mask.toNat = 0 := by
        by_contra hne
        exact hpos (Nat.pos_of_ne_zero hne)
      rw [if_neg fun h => hpos h.1, hzero]
      simp

/-- The cached mask of a constellation has a bit for each of its used satellites, and no other. -/
def Cached (r : SvStatus) (c : Constellation) (mask : UInt32) : Prop :=
  ∀ k < 32, mask.toNat.testBit k = true ↔ r.Used c ((k : Nat) + 1)

def Shows (r : SvStatus) (talker : Text) (c : Constellation) (offset : Nat) (sentence : Text) : Prop :=
  ∃ l, UsedSatellites r c offset l ∧
    '$' :: talker ++ ",A,".toList ++ [fixType l.length, ','] ++ (gsaSlots l).flatten <+: sentence

/-- No used satellite is outside the mask, or all bits are set anyway. -/
def Numbered (r : SvStatus) (c : Constellation) : Prop :=
  (∀ svid, r.Used c svid → 1 ≤ svid ∧ svid ≤ 32) ∨ ∀ svid : Nat, 1 ≤ svid → svid ≤ 32 → r.Used c svid

variable {r : SvStatus} {c : Constellation}

theorem Numbered.cached (h : Numbered r c) {shl : Int → UInt32} (hshl : IsShl shl) :
    Cached r c (usedMask shl c r) := by
  intro k hk
  rw [usedMask_testBit]
  constructor
  · rintro ⟨sv, hsv, ⟨hc, hused⟩, hbit⟩
    rcases h with hrange | hfull
    · obtain ⟨hlo, hhi⟩ := hrange sv.svid.toInt ⟨sv, hsv, hc, hused, rfl⟩
      exact ⟨sv, hsv, hc, hused, (shl_testBit hshl hlo hhi).mp hbit⟩
    · exact hfull (k + 1) (by omega) (by omega)
  · rintro ⟨sv, hsv, hc, hused, hsvid⟩
    exact ⟨sv, hsv, ⟨hc, hused⟩, (shl_testBit hshl (by omega) (by omega)).mpr hsvid⟩

/-- The other way round, the shift may give the bit of a satellite that is not used. -/
theorem Numbered.of_cached (h : ∀ shl, IsShl shl → Cached r c (usedMask shl c r)) :
    Numbered r c := by
  by_contra hno
  unfold Numbered at hno
  push Not at hno
  obtain ⟨⟨svid, ⟨sv, hsv, hc, hused, rfl⟩, hout⟩, m, hlo, hhi, hunused⟩ := hno
  have hbit : (shlElse (UInt32.ofNat (2 ^ (m - 1))) (sv.svid.toInt - 1)).toNat.testBit (m - 1) = true := by
    rw [shlElse_out _ (by omega), toNat_two_pow (by omega)]
    exact Nat.testBit_two_pow_self
  have hmask := (h _ (isShl_shlElse _) (m - 1) (by omega)).mp
    ((usedMask_testBit _ c r (m - 1)).mpr ⟨sv, hsv, ⟨hc, hused⟩, hbit⟩)
  rw [show ((m - 1 : Nat) : Int) + 1 = m by omega] at hmask
  exact hunused hmask

theorem Cached.list {mask : UInt32} (h : Cached r c mask) (offset : Nat) :
    UsedSatellites r c offset (usedList offset 1 0 mask) := by
  rw [usedList_eq mask.toNat_lt offset 1 (Nat.le_refl 32)]
  constructor
  · refine List.Pairwise.map _ (fun a b hab => Nat.add_lt_add_right hab _) ?_
    exact List.Pairwise.filter _ List.pairwise_lt_range
  · intro n
    rw [List.mem_map]
    constructor
    · rintro ⟨k, hk, rfl⟩
      obtain ⟨hrange, hbit⟩ := List.mem_filter.mp hk
      have hlt := List.mem_range.mp hrange
      exact ⟨k + 1, by omega, by omega, (h k hlt).mp hbit, by omega⟩
    · rintro ⟨svid, hlo, hhi, hused, rfl⟩
      have hsucc : ((svid - 1 : Nat) : Int) + 1 = svid := by omega
      refine ⟨svid - 1, List.mem_filter.mpr ⟨List.mem_range.mpr (by omega), (h _ (by omega)).mpr ?_⟩, by omega⟩
      rw [hsucc]
      exact hused

theorem UsedSatellites.le {offset : Nat} {l : List Nat} (h : UsedSatellites r c offset l) {n : Nat}
    (hn : n ∈ l) : n ≤ 32 + offset := by
  obtain ⟨svid, -, hhi, -, rfl⟩ := (h.mem n).mp hn
  omega

theorem slots_length {l : List Nat} (h : ∀ n ∈ l, n < 100) : (gsaSlots l).flatten.length ≤ 48 := by
  have hslot : ∀ t ∈ gsaSlots l, t.length ≤ 4 := by
    intro t ht
    obtain ⟨i, -, rfl⟩ := List.mem_map.mp ht
    cases hget : l[i]? with
    | none => exact Nat.le_add_left 1 3
    | some n =>
      have hlt := h n (List.mem_of_getElem? hget)
      have hlen := decimal_length (w := 2) (k := 2) (v := (n : Int)) (by decide) (by simpa using hlt)
      show (decimal 2 n ++ [',']).length ≤ 4
      rw [List.length_append, List.length_singleton]
      omega
  have hsum : ∀ ts : List Text, (∀ t ∈ ts, t.length ≤ 4) → ts.flatten.length ≤ 4 * ts.length := by
    intro ts
    induction ts with
    | nil => simp
    | cons t ts ih =>
      intro hts
      have hhead := hts t (List.mem_cons_self ..)
      have htail := ih fun s hs => hts s (List.mem_cons_of_mem t hs)
      rw [List.flatten_cons, List.length_append, List.length_cons]
      omega
  have hcount : (gsaSlots l).length = 12 := by simp [gsaSlots]
  have hlen := hsum _ hslot
  omega

theorem generateSv_caches (shl : Int → UInt32) (r : SvStatus) (dop : Option Dop) (d : LocEngData) :
    (generateSv shl r dop d).gpsUsedMask = usedMask shl .gps r ∧
      (generateSv shl r dop d).gloUsedMask = usedMask shl .glonass r ∧ (generateSv shl r dop d).nmeaCb = d.nmeaCb := by
  unfold generateSv
  dsimp only
  rw [generateGsv_report rfl]
  dsimp only
  rw [if_neg (by decide), generateGsv_report rfl]
  unfold LocEngData.report
  split_ifs <;> exact ⟨rfl, rfl, rfl⟩

theorem gsa_sent {fixed1 : UInt32 → Text} {talker : Text} (ht : talker.length = 5) {l : List Nat}
    (hl : ∀ n ∈ l, n < 100) (p : PosReport) (d : LocEngData) (rest : List Draft) :
    ∃ q, sent (gsa fixed1 talker l p d :: rest) = q :: sent rest ∧
      '$' :: talker ++ ",A,".toList ++ [fixType l.length, ','] ++ (gsaSlots l).flatten <+: q.1 := by
  have hslots := slots_length hl
  have hchecked : (gsa fixed1 talker l p d).checked.flatten =
      '$' :: talker ++ ",A,".toList ++ [fixType l.length, ','] ++ (gsaSlots l).flatten := rfl
  have hlen : (gsa fixed1 talker l p d).checked.flatten.length ≤ 59 := by
    rw [hchecked, List.length_append, List.length_append, List.length_append, List.length_cons, ht]
    show 6 + 3 + 2 + _ ≤ 59
    omega
  have hfit : (gsa fixed1 talker l p d).checked.flatten.length < sentenceMaxLength :=
    Nat.lt_of_le_of_lt hlen (by decide)
  refine ⟨putChecksum ((gsa fixed1 talker l p d).text.take (sentenceMaxLength - 1)) sentenceMaxLength, ?_, ?_⟩
  · rw [sent, build_eq, if_pos hfit]
  · rw [← hchecked]
    have htext : (gsa fixed1 talker l p d).checked.flatten <+: (gsa fixed1 talker l p d).text := List.prefix_append ..
    refine (List.prefix_take_iff.mpr ⟨htext, ?_⟩).trans (List.prefix_append ..)
    exact Nat.le_trans hlen (by decide)

/-- What a report of satellites caches is what the next report of a position shows, and exactly the used satellites,
just if no used satellite of a constellation is outside its mask, or the mask is full. -/
theorem used_satellites_shown_iff (r : SvStatus) :
    (∀ shl, IsShl shl → ∀ (dop : Option Dop) (d : LocEngData),
      Cached r .gps (generateSv shl r dop d).gpsUsedMask ∧ Cached r .glonass (generateSv shl r dop d).gloUsedMask ∧
        ∀ (fixed1 : UInt32 → Text) (p : PosReport), p.utc ≠ none → d.nmeaCb = true → ∃ gps glonass rest,
          (generatePos fixed1 p true (generateSv shl r dop d)).reported =
            (generateSv shl r dop d).reported ++ gps :: glonass :: rest ∧
          Shows r gpgsa .gps 0 gps.1 ∧ Shows r gngsa .glonass glonassSvIdOffset glonass.1) ↔
      Numbered r .gps ∧ Numbered r .glonass := by
  constructor
  · intro h
    constructor
    · refine Numbered.of_cached fun shl hshl => ?_
      have hmask := (h shl hshl none { nmeaCb := false }).1
      rwa [(generateSv_caches ..).1] at hmask
    · refine Numbered.of_cached fun shl hshl => ?_
      have hmask := (h shl hshl none { nmeaCb := false }).2.1
      rwa [(generateSv_caches ..).2.1] at hmask
  · rintro ⟨hgps, hglonass⟩ shl hshl dop d
    obtain ⟨hmask, hgloMask, hcb⟩ := generateSv_caches shl r dop d
    generalize generateSv shl r dop d = e at hmask hgloMask hcb ⊢
    have hcached : Cached r .gps e.gpsUsedMask := by
      rw [hmask]
      exact hgps.cached hshl
    have hgloCached : Cached r .glonass e.gloUsedMask := by
      rw [hgloMask]
      exact hglonass.cached hshl
    refine ⟨hcached, hgloCached, fun fixed1 p hutc hd => ?_⟩
    obtain ⟨tm, htm⟩ := Option.ne_none_iff_exists'.mp hutc
    have hlist := hcached.list 0
    have hgloList := hgloCached.list glonassSvIdOffset
    obtain ⟨gps, hsent, hshows⟩ := @gsa_sent fixed1 gpgsa rfl _
      (fun n hn => Nat.lt_of_le_of_lt (hlist.le hn) (by decide)) p e
      [gsa fixed1 gngsa (usedList glonassSvIdOffset 1 0 e.gloUsedMask) p e, gpvtg p, gprmc tm p,
        gpgga fixed1 tm (usedList 0 1 0 e.gpsUsedMask).length p e]
    obtain ⟨glonass, hgloSent, hgloShows⟩ := @gsa_sent fixed1 gngsa rfl _
      (fun n hn => Nat.lt_of_le_of_lt (hgloList.le hn) (by decide)) p e
      [gpvtg p, gprmc tm p, gpgga fixed1 tm (usedList 0 1 0 e.gpsUsedMask).length p e]
    refine ⟨gps, glonass, sent [gpvtg p, gprmc tm p, gpgga fixed1 tm (usedList 0 1 0 e.gpsUsedMask).length p e],
      ?_, ⟨_, hlist, hshows⟩, ⟨_, hgloList, hgloShows⟩⟩
    rw [generatePos_reported, hcb, if_pos hd, posDrafts, htm]
    dsimp only
    rw [if_pos rfl, hsent, hgloSent]

/-- With a shift that takes its count modulo 32, the GLONASS number 93 sets the bit of 29. -/
theorem glonass_93_taken_for_29 : ¬∀ (r : SvStatus) (shl : Int → UInt32), IsShl shl →
    ∀ (dop : Option Dop) (d : LocEngData), Cached r .glonass (generateSv shl r dop d).gloUsedMask := by
  intro h
  have hcached := h ⟨[⟨93, .glonass, true, 0, 0, false, 0⟩], by decide⟩ (fun n => 1 <<< (n % 32).toNat.toUInt32)
    (by unfold IsShl; decide) none { nmeaCb := false } 28 (by decide)
  rw [(generateSv_caches ..).2.1] at hcached
  obtain ⟨sv, hsv, -, -, hsvid⟩ := hcached.mp (by decide)
  rw [List.mem_singleton.mp hsv] at hsvid
  exact absurd hsvid (by decide)

end Wt88047.Nmea
