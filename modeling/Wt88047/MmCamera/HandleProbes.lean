import Wt88047.MmCamera.HandleHistory

/-! Lookups and calls with any handles after a history. -/

namespace Wt88047.Handles

open World

variable {w w' : World} {i j : Nat} {s t : StreamObj}

theorem World.Present.kept (hp : w.Present s)
    (h : ∀ l, ((w.ch s.chObj).streams l).state ≠ .notUsed →
      ((w.ch s.chObj).streams l).chObj = s.chObj → ((w.ch s.chObj).streams l).born = s.born →
        (w'.ch s.chObj).streams l = (w.ch s.chObj).streams l) : w'.Present s := by
  obtain ⟨l, hl, hu, hc, hb⟩ := hp
  have he := h l hu hc hb
  exact ⟨l, hl, by rw [he]; exact hu, by rw [he]; exact hc, by rw [he]; exact hb⟩

namespace Sourced

theorem init : Sourced {} := fun _ _ hu => absurd rfl hu

theorem congr_streams (hs : Sourced w) (hch : ∀ k, (w'.ch k).streams = (w.ch k).streams) :
    Sourced w' := by
  intro k l hu
  rw [hch] at hu ⊢
  exact (hs k l hu).kept fun m _ _ _ => by rw [hch]

theorem setStream_streams (hch : w'.ch = (w.setCh i ((w.ch i).setStream j t)).ch) (k l : Nat) :
    (w'.ch k).streams l = if k = i ∧ l = j then t else (w.ch k).streams l := by
  rw [hch]
  by_cases hk : k = i
  · subst hk
    have hself : (w.setCh k ((w.ch k).setStream j t)).ch k = (w.ch k).setStream j t := if_pos rfl
    rw [hself]
    by_cases hl : l = j
    · rw [if_pos ⟨rfl, hl⟩]
      exact if_pos hl
    · rw [if_neg fun h => hl h.2]
      exact if_neg hl
  · have hother : (w.setCh i ((w.ch i).setStream j t)).ch k = w.ch k := if_neg hk
    rw [hother, if_neg fun h => hk h.1]

theorem fill (hs : Sourced w) (hfree : ((w.ch i).streams j).state = .notUsed)
    (hch : w'.ch = (w.setCh i ((w.ch i).setStream j t)).ch)
    (ht : t.state ≠ .notUsed → w.Present t ∨ t.chObj = i ∧ j < maxStreamNumInBundle) :
    Sourced w' := by
  have hkeep : ∀ s, w.Present s → w'.Present s := fun s hp => by
    refine hp.kept fun l hu _ _ => ?_
    rw [setStream_streams hch, if_neg]
    rintro ⟨hk, rfl⟩
    rw [hk] at hu
    exact hu hfree
  intro k l hu
  rw [setStream_streams hch k l] at hu ⊢
  split at hu
  · next hkl =>
    rw [if_pos hkl]
    rcases ht hu with hp | ⟨hc, hj⟩
    · exact hkeep t hp
    · have hself : (w'.ch t.chObj).streams j = t := by
        rw [setStream_streams hch, if_pos ⟨hc, rfl⟩]
      exact ⟨j, hj, by rw [hself]; exact hu, by rw [hself], by rw [hself]⟩
  · next hkl =>
    rw [if_neg hkl]
    exact hkeep _ (hs k l hu)

theorem clear (hs : Sourced w) (hw : HandleInv w)
    (hfree : ((w.ch i).streams j).chObj = i → ∀ k < channelMax, ∀ l < maxStreamNumInBundle,
      (k, l) ≠ (i, j) → ((w.ch k).streams l).state ≠ .notUsed →
        ((w.ch k).streams l).born ≠ ((w.ch i).streams j).born)
    (hch : w'.ch = (w.setCh i ((w.ch i).setStream j {})).ch) : Sourced w' := by
  intro k l hu
  rw [setStream_streams hch k l] at hu ⊢
  split at hu
  · exact absurd rfl hu
  · next hkl =>
    rw [if_neg hkl]
    refine (hs k l hu).kept fun m hm hc hb => ?_
    rw [setStream_streams hch, if_neg]
    rintro ⟨hi, rfl⟩
    have hk : (w.ch k).state ≠ .notused := fun hn => by
      rw [hw.empty hn] at hu
      exact hu rfl
    rw [hi] at hc hb
    exact hfree hc k (hw.filled hk).lt l (hw.bound k l hu) (by simpa using hkl) hu hb.symm

theorem addChannel (hs : Sourced w) (hw : HandleInv w) : Sourced w.addChannel.2 := by
  unfold World.addChannel
  cases hf : w.freeChannel with
  | none => exact hs
  | some i =>
    have he := hw.empty (freeChannel_eq_some hf).2
    refine hs.congr_streams fun k => ?_
    show (if k = i then _ else w.ch k : ChannelObj).streams = _
    split
    · next hk => rw [hk, he]
    · rfl

theorem delChannel (hs : Sourced w) (hw : HandleInv w) {chId : Nat}
    (hu : Unlinked w (.delChannel chId)) : Sourced (w.delChannel chId).2 := by
  rcases hw.delChannel_cases chId with he | ⟨i, hl, -, -, he⟩
  · rw [he]
    exact hs
  · rw [he]
    intro k l hk
    change ((if k = i then {} else w.ch k : ChannelObj).streams l).state ≠ _ at hk
    show (w.setCh i {}).Present ((if k = i then {} else w.ch k : ChannelObj).streams l)
    split at hk
    · exact absurd rfl hk
    · next hki =>
      rw [if_neg hki]
      have hn : (w.ch k).state ≠ .notused := fun hn => by
        rw [hw.empty hn] at hk
        exact hk rfl
      have hne := hu i hl k (hw.filled hn).lt hki l (hw.bound k l hk) hk
      refine (hs k l hk).kept fun m _ _ _ => ?_
      show (if _ = i then {} else w.ch _ : ChannelObj).streams m = _
      rw [if_neg hne]

theorem addStream (hs : Sourced w) (chId : Nat) (acquired : Bool) :
    Sourced (w.addStream chId acquired).2 := by
  unfold World.addStream
  cases w.getChannelByHandler chId with
  | none => exact hs
  | some i =>
    dsimp only
    split
    · unfold channelAddStream
      cases hf : (w.ch i).freeStream with
      | none => exact hs
      | some j =>
        obtain ⟨hj, hfree⟩ := freeStream_eq_some hf
        cases acquired with
        | false => exact hs.fill hfree rfl fun hn => absurd rfl hn
        | true => exact hs.fill hfree rfl fun _ => .inr ⟨rfl, hj⟩
    · exact hs

theorem linkStream (hs : Sourced w) (chId streamId linkedChId : Nat) :
    Sourced (w.linkStream chId streamId linkedChId).2 := by
  unfold World.linkStream
  cases w.getChannelByHandler linkedChId with
  | none => exact hs
  | some i =>
    cases w.getChannelByHandler chId with
    | none => exact hs
    | some owner =>
      dsimp only
      split
      · unfold channelLinkStream
        cases hl : (w.ch owner).getStreamByHandler streamId with
        | none => exact hs
        | some l =>
          cases hf : (w.ch i).freeStream with
          | none => exact hs
          | some j =>
            obtain ⟨-, hfree⟩ := freeStream_eq_some hf
            exact hs.fill hfree rfl fun hn => .inl (hs owner l hn)
      · exact hs

theorem delStream (hs : Sourced w) (hw : HandleInv w) {chId streamId : Nat}
    (hu : Unlinked w (.delStream chId streamId)) : Sourced (w.delStream chId streamId).2 := by
  rcases hw.delStream_cases chId streamId with he | ⟨i, j, hl, -, -, hj, he⟩
  · rw [he]
    exact hs
  · rw [he]
    exact hs.clear hw (hu i hl j hj) rfl

theorem step (hs : Sourced w) (hw : HandleInv w) {op : Op} (hu : Unlinked w op)
    (h : Handles.step w op = some w') : Sourced w' := by
  have hnote : ∀ (v : World) (n c : Nat), Sourced v → Sourced (v.noteChannel n c) := fun v n c hv => by
    unfold noteChannel
    split <;> exact hv
  have hmember : ∀ (v : World) (c n : Nat), Sourced v → Sourced (v.noteMember c n) := fun v c n hv => by
    unfold noteMember
    split <;> exact hv
  cases op with
  | addChannel =>
    obtain rfl := Option.some.inj h
    exact hnote _ _ _ (hs.addChannel hw)
  | delChannel chId =>
    obtain rfl := Option.some.inj h
    unfold dropChannel
    split <;> exact hs.delChannel hw hu
  | addStream chId acquired =>
    obtain rfl := Option.some.inj h
    exact hmember _ _ _ (hs.addStream chId acquired)
  | linkStream chId streamId linkedChId =>
    obtain rfl := Option.some.inj h
    exact hmember _ _ _ (hs.linkStream chId streamId linkedChId)
  | delStream chId streamId =>
    obtain rfl := Option.some.inj h
    unfold dropMember
    split <;> exact hs.delStream hw hu
  | draw =>
    obtain rfl := Option.some.inj h
    exact hs

end Sourced

namespace HandleInv

theorem getStreamByHandler_empty (handle : Nat) :
    ({} : ChannelObj).getStreamByHandler handle = none := rfl

theorem channel_honest (h : HandleInv w) (handle : Nat) :
    Honest w (.channel handle) ↔ Answerable w (.channel handle) := by
  constructor
  · rintro ⟨hiff, -⟩ rfl i hi hn
    have hsome : (w.getChannelByHandler 0).isSome = true :=
      getChannelByHandler_isSome.mpr ⟨i, hi, by rw [h.empty hn]⟩
    exact (hiff.mp hsome).1 rfl
  · intro ha
    have hfound : ∀ i, w.getChannelByHandler handle = some i →
        handle ≠ 0 ∧ (w.ch i).state = .stopped ∧ (w.ch i).myHdl = handle := fun i hi => by
      rcases h.lookup_some hi with ⟨h0, he⟩ | hl
      · exact absurd (by rw [he]) (ha h0 i (getChannelByHandler_eq_some hi).1)
      · exact hl
    refine ⟨⟨fun hs => ?_, fun ⟨_, hl⟩ => ?_⟩, fun n hn hd hlt => ?_⟩
    · obtain ⟨i, hi⟩ := Option.isSome_iff_exists.mp hs
      obtain ⟨h0, hst, hh⟩ := hfound i hi
      exact ⟨h0, h.live_iff.mpr ⟨i, hst, hh⟩⟩
    · obtain ⟨i, hst, hh⟩ := h.live_iff.mp hl
      rw [h.lookup_live hst hh]
      rfl
    · -- the channel that would be found has a number less than a period away from `n`
      cases hi : w.getChannelByHandler handle with
      | none => rfl
      | some i =>
        obtain ⟨-, hst, hh⟩ := hfound i hi
        have hf := h.filled (i := i) (by rw [hst]; decide)
        obtain ⟨hof, -⟩ := h.issued n handle hn
        have hmod : handle % 256 = i := by
          rw [← hh]
          exact h.handle_mod hst
        have hle := h.latest i hst n handle hn hmod
        have hmade := hf.made
        have heq : handleOf (w.ch i).born i = handleOf n i := by
          rw [← hf.handle, hh, ← hmod]
          exact hof
        have hnum := handleOf_inj heq hle (by omega)
        exact absurd ((h.channels n handle).mpr ⟨i, hst, hh, hnum⟩) hd

theorem stream_honest (h : HandleInv w) (hs : Sourced w) (chId handle : Nat) :
    Honest w (.stream chId handle) := by
  intro hl i hi
  obtain ⟨k, hst, hh⟩ := h.live_iff.mp hl
  have hik : k = i := Option.some.inj ((h.lookup_live hst hh).symm.trans hi)
  subst hik
  refine ⟨?_, fun j hj => hs k j (getStreamByHandler_eq_some hj).2.1⟩
  rw [getStreamByHandler_isSome, ← h.mem_members hst handle, hh]
  refine ⟨fun hm => ⟨?_, hm⟩, fun hm => hm.2⟩
  rw [← hh, h.mem_members hst handle, ← getStreamByHandler_isSome] at hm
  obtain ⟨j, hj⟩ := Option.isSome_iff_exists.mp hm
  obtain ⟨-, hu, he⟩ := getStreamByHandler_eq_some hj
  rw [he]
  exact (h.streams k j hu).2

theorem lookup_not_member (h : HandleInv w) {chId streamId : Nat}
    (hd : ¬ (w.ChannelLive chId ∧ (chId, streamId) ∈ w.members)) :
    w.getChannelByHandler chId = none ∨
      ∃ i, w.getChannelByHandler chId = some i ∧ (w.ch i).getStreamByHandler streamId = none ∧
        (w.ch i = {} ∨ (w.ch i).state = .stopped) := by
  cases hl : w.getChannelByHandler chId with
  | none => exact .inl rfl
  | some i =>
    rcases h.lookup_some hl with ⟨-, he⟩ | ⟨-, hst, hh⟩
    · exact .inr ⟨i, rfl, by rw [he]; exact getStreamByHandler_empty streamId, .inl he⟩
    · refine .inr ⟨i, rfl, ?_, .inr hst⟩
      have hlive := h.live_iff.mpr ⟨i, hst, hh⟩
      cases hg : (w.ch i).getStreamByHandler streamId with
      | none => rfl
      | some j =>
        have hm := (h.mem_members hst streamId).mpr
          (getStreamByHandler_isSome.mp (Option.isSome_iff_exists.mpr ⟨j, hg⟩))
        rw [hh] at hm
        exact absurd ⟨hlive, hm⟩ hd

theorem callChannel_honest (h : HandleInv w) (k : ChannelCall) (chId : Nat) (ran : Int × World) :
    Honest w (.callChannel k chId ran) ↔ Answerable w (.callChannel k chId ran) := by
  have hnone : w.getChannelByHandler chId = none → callChannel k chId ran w = (k.notFound, w) :=
    fun hl => by rw [callChannel, hl]
  constructor
  · rintro hh rfl
    by_cases hl : w.ChannelLive chId
    · exact .inl hl
    · rcases h.lookup_dead hl with hn | ⟨i, hi, h0, he⟩
      · have hans : (0 : Int) = -1 := congrArg Prod.fst ((hnone hn).symm.trans (hh hl))
        exact absurd hans (by decide)
      · exact .inr ⟨h0, i, (getChannelByHandler_eq_some hi).1, by rw [he]⟩
  · intro ha hl
    rcases h.lookup_dead hl with hn | ⟨i, hi, -, he⟩
    · rw [hnone hn]
      by_cases hk : k = .stopChannel
      · rcases ha hk with hlive | ⟨rfl, i, hi, hfree⟩
        · exact absurd hlive hl
        · have hsome := getChannelByHandler_isSome.mpr ⟨i, hi, show 0 = _ by rw [h.empty hfree]⟩
          rw [hn] at hsome
          cases hsome
      · cases k <;> first | rfl | exact absurd rfl hk
    · have hst : (w.ch i).state = .notused := by rw [he]
      rw [callChannel, hi]
      exact if_pos hst

theorem callStream_honest (h : HandleInv w) (k : StreamCall) (offline : Bool) (chId streamId : Nat)
    (ran : Int × World) : Honest w (.callStream k offline chId streamId ran) := by
  intro hd
  unfold callStream
  rcases h.lookup_not_member hd with hl | ⟨i, hl, hg, he | hst⟩
  · rw [hl]
  · have hst : (w.ch i).state = .notused := by rw [he]
    rw [hl]
    simp [hg, hst]
  · rw [hl]
    simp [hg, hst]

theorem addStream_honest (h : HandleInv w) (chId : Nat) (acquired : Bool) :
    Honest w (.addStream chId acquired) := by
  intro hd
  unfold World.addStream
  rcases h.lookup_dead hd with hl | ⟨i, hl, -, he⟩
  · rw [hl]
  · rw [hl]
    simp [he]

theorem linkStream_honest (h : HandleInv w) (chId streamId linkedChId : Nat) :
    Honest w (.linkStream chId streamId linkedChId) := by
  intro hd
  unfold World.linkStream
  by_cases hlive : w.ChannelLive linkedChId
  · have hm : ¬ (w.ChannelLive chId ∧ (chId, streamId) ∈ w.members) := fun hm => hd ⟨hlive, hm⟩
    cases hl : w.getChannelByHandler linkedChId with
    | none => rfl
    | some i =>
      rcases h.lookup_not_member hm with ho | ⟨o, ho, hg, -⟩
      · rw [ho]
      · rw [ho]
        dsimp only
        unfold channelLinkStream
        rw [hg]
        split <;> rfl
  · rcases h.lookup_dead hlive with hl | ⟨i, hl, -, he⟩
    · rw [hl]
    · rw [hl]
      cases w.getChannelByHandler chId with
      | none => rfl
      | some o => simp [he]

theorem delChannel_honest (h : HandleInv w) (chId : Nat) : Honest w (.delChannel chId) := by
  intro hd
  rcases h.delChannel_cases chId with he | ⟨i, -, hst, hh, -⟩
  · exact he
  · exact absurd (h.live_iff.mpr ⟨i, hst, hh⟩) hd

theorem delStream_honest (h : HandleInv w) (chId streamId : Nat) :
    Honest w (.delStream chId streamId) := by
  intro hd
  rcases h.delStream_cases chId streamId with he | ⟨i, j, hl, -, -, hj, -⟩
  · exact he
  · rcases h.lookup_not_member hd with hn | ⟨k, hk, hg, -⟩
    · rw [hn] at hl
      cases hl
    · obtain rfl := Option.some.inj (hl.symm.trans hk)
      rw [hg] at hj
      cases hj

end HandleInv

/-- After a history in which no stream goes away while another slot stands for it, a lookup or a call
treats its handles as it should exactly if it is answerable. -/
theorem handles_honest {es : List Op} (hes : Runs.Along step Unlinked {} es)
    (hw : Runs.play step {} es = some w) (p : Probe) : Honest w p ↔ Answerable w p := by
  have hinv : HandleInv w ∧ Sourced w :=
    Runs.play_invariant (fun _ _ _ (h : HandleInv _ ∧ Sourced _) hu hs =>
      ⟨h.1.step _ hs, h.2.step h.1 hu hs⟩) ⟨.init, .init⟩ hes hw
  obtain ⟨h, hs⟩ := hinv
  cases p with
  | channel handle => exact h.channel_honest handle
  | stream chId handle => exact ⟨fun _ => trivial, fun _ => h.stream_honest hs chId handle⟩
  | callChannel k chId ran => exact h.callChannel_honest k chId ran
  | callStream k offline chId streamId ran =>
    exact ⟨fun _ => trivial, fun _ => h.callStream_honest k offline chId streamId ran⟩
  | delChannel chId => exact ⟨fun _ => trivial, fun _ => h.delChannel_honest chId⟩
  | addStream chId acquired => exact ⟨fun _ => trivial, fun _ => h.addStream_honest chId acquired⟩
  | linkStream chId streamId linkedChId =>
    exact ⟨fun _ => trivial, fun _ => h.linkStream_honest chId streamId linkedChId⟩
  | delStream chId streamId =>
    exact ⟨fun _ => trivial, fun _ => h.delStream_honest chId streamId⟩

/-- Two channels, a stream of the first linked into the second, the link taken back and the first
channel deleted: its handle finds nothing. -/
theorem handles_honest_linked : ∃ w, Runs.play step {} [.addChannel, .addStream 256 true, .addChannel,
      .linkStream 256 512 769, .delStream 769 512, .delChannel 256] = some w ∧
    (Honest w (.channel 256) ↔ Answerable w (.channel 256)) :=
  ⟨_, rfl, @handles_honest _ [.addChannel, .addStream 256 true, .addChannel,
    .linkStream 256 512 769, .delStream 769 512, .delChannel 256] (by decide) rfl (.channel 256)⟩

/-- In a fresh camera object the handle 0 finds a channel. -/
theorem zero_finds_channel : ¬ ∀ (es : List Op) (w : World), Runs.play step {} es = some w →
    ∀ p, Honest w p := by
  intro h
  have hz := h [] {} rfl (.channel 0)
  exact (hz.1.mp (by decide)).1 rfl

end Wt88047.Handles
