import Wt88047.MmCamera.HandleLookup

/-! The slots of a camera and the record agree after every history. -/

namespace Wt88047.Handles

open World

variable {w w' : World} {i j : Nat}

theorem Filled.keep (hf : Filled w i) (hs : (w'.ch i).state = (w.ch i).state)
    (hh : (w'.ch i).myHdl = (w.ch i).myHdl) (hb : (w'.ch i).born = (w.ch i).born)
    (hmade : w.made ≤ w'.made) : Filled w' i where
  state := hs.trans hf.state
  lt := hf.lt
  handle := by
    rw [hh, hb]
    exact hf.handle
  made := by
    rw [hb]
    exact Nat.lt_of_lt_of_le hf.made hmade

theorem Filled.of_ch_eq (hf : Filled w i) (he : w'.ch i = w.ch i) (hmade : w.made ≤ w'.made) :
    Filled w' i :=
  hf.keep (congrArg ChannelObj.state he) (congrArg ChannelObj.myHdl he) (congrArg ChannelObj.born he) hmade

namespace HandleInv

theorem init : HandleInv {} where
  count := rfl
  slots _ := .inl rfl
  streams _ _ hs := absurd rfl hs
  channels _ _ := ⟨nofun, fun ⟨_, hs, _⟩ => nomatch hs⟩
  issued := nofun
  latest _ hs := nomatch hs
  members _ hs := nomatch hs
  known := nofun
  bound _ _ hs := absurd rfl hs

theorem exchange (h : HandleInv w) (hi : (w.ch i).state = .stopped) (hj : j < maxStreamNumInBundle)
    {t : StreamObj} (ht : t.state ≠ .notUsed → t.state = .acquired ∧ t.myHdl ≠ 0)
    (hch : w'.ch = (w.setCh i ((w.ch i).setStream j t)).ch) (hcount : w'.history = historyAt w'.made)
    (hmade : w.made ≤ w'.made) (hchan : w'.channels = w.channels) (hissued : w'.issued = w.issued)
    (hmem : ∀ c s, w'.members.count (c, s) +
        (if c = (w.ch i).myHdl then ((w.ch i).streams j).handles.count s else 0) =
      w.members.count (c, s) + (if c = (w.ch i).myHdl then t.handles.count s else 0)) :
    HandleInv w' := by
  have hself : w'.ch i = (w.ch i).setStream j t := by
    rw [hch]
    exact if_pos rfl
  have hother : ∀ k, k ≠ i → w'.ch k = w.ch k := fun k hk => by
    rw [hch]
    exact if_neg hk
  have hhead : ∀ k, (w'.ch k).state = (w.ch k).state ∧ (w'.ch k).myHdl = (w.ch k).myHdl ∧
      (w'.ch k).born = (w.ch k).born := fun k => by
    by_cases hk : k = i
    · subst hk
      rw [hself]
      exact ⟨rfl, rfl, rfl⟩
    · rw [hother k hk]
      exact ⟨rfl, rfl, rfl⟩
  have hfill : ∀ k, Filled w k → Filled w' k := fun k hf => by
    obtain ⟨hs, hh, hb⟩ := hhead k
    exact hf.keep hs hh hb hmade
  have hlive : ∀ c, w'.ChannelLive c ↔ w.ChannelLive c := fun c => by
    show (∃ p ∈ w'.channels, p.2 = c) ↔ _
    rw [hchan]
    rfl
  refine ⟨hcount, fun k => ?_, fun k l hl => ?_, fun n c => ?_, fun n c hm => ?_,
    fun k hk n c hm hc => ?_, fun k hk s => ?_, fun p hp => ?_, fun k l hl => ?_⟩
  · by_cases hk : k = i
    · subst hk
      exact .inr (hfill k (h.filled (by rw [hi]; decide)))
    · rcases h.slots k with he | hf
      · exact .inl ((hother k hk).trans he)
      · exact .inr (hfill k hf)
  · by_cases hk : k = i
    · subst hk
      rw [hself] at hl ⊢
      by_cases hlj : l = j
      · subst hlj
        have hnew : ((w.ch k).setStream l t).streams l = t := if_pos rfl
        rw [hnew] at hl ⊢
        exact ht hl
      · have hold : ((w.ch k).setStream j t).streams l = (w.ch k).streams l := if_neg hlj
        rw [hold] at hl ⊢
        exact h.streams k l hl
    · rw [hother k hk] at hl ⊢
      exact h.streams k l hl
  · rw [hchan, h.channels n c]
    refine exists_congr fun k => ?_
    obtain ⟨hs, hh, hb⟩ := hhead k
    rw [hs, hh, hb]
  · rw [hissued] at hm
    have hold := h.issued n c hm
    exact ⟨hold.1, Nat.lt_of_lt_of_le hold.2 hmade⟩
  · rw [hissued] at hm
    obtain ⟨hs, -, hb⟩ := hhead k
    rw [hb]
    exact h.latest k (hs ▸ hk) n c hm hc
  · obtain ⟨hs, hh, -⟩ := hhead k
    have hold := h.members k (hs ▸ hk) s
    have hm := hmem (w.ch k).myHdl s
    rw [hh]
    by_cases hki : k = i
    · subst hki
      have hx := handles_setStream (c := w.ch k) hj t s
      rw [hself]
      simp only [if_true] at hm
      omega
    · have hne : (w.ch k).myHdl ≠ (w.ch i).myHdl := fun he => hki (h.unique (hs ▸ hk) hi he)
      rw [hother k hki]
      simp only [if_neg hne] at hm
      omega
  · obtain ⟨c, s⟩ := p
    apply (hlive c).mpr
    by_cases hc : c = (w.ch i).myHdl
    · exact h.live_iff.mpr ⟨i, hi, hc.symm⟩
    · have hm := hmem c s
      have hpos := List.count_pos_iff.mpr hp
      simp only [if_neg hc] at hm
      exact h.known (c, s) (List.count_pos_iff.mp (by omega))
  · by_cases hk : k = i
    · subst hk
      rw [hself] at hl
      by_cases hlj : l = j
      · exact hlj ▸ hj
      · have hold : ((w.ch k).setStream j t).streams l = (w.ch k).streams l := if_neg hlj
        rw [hold] at hl
        exact h.bound k l hl
    · rw [hother k hk] at hl
      exact h.bound k l hl

theorem draw (h : HandleInv w) : HandleInv w.draw := by
  refine ⟨?_, fun k => ?_, h.streams, h.channels, fun n c hm => ?_, h.latest, h.members, h.known,
    h.bound⟩
  · show Camera.nextHistory w.history = historyAt (w.made + 1)
    rw [h.count, nextHistory_historyAt]
  · rcases h.slots k with he | hf
    · exact .inl he
    · exact .inr (hf.of_ch_eq rfl (Nat.le_succ _))
  · exact ⟨(h.issued n c hm).1, Nat.lt_succ_of_lt (h.issued n c hm).2⟩

theorem generateHandler_eq (h : HandleInv w) (k : Nat) :
    (Camera.generateHandler k w.history).1 = handleOf w.made k := by
  show Camera.nextHistory w.history * 256 + k = historyAt (w.made + 1) * 256 + k
  rw [h.count, nextHistory_historyAt]

theorem addChannel (h : HandleInv w) :
    HandleInv (w.addChannel.2.noteChannel w.made w.addChannel.1) := by
  unfold World.addChannel
  cases hf : w.freeChannel with
  | none => exact h
  | some i =>
    obtain ⟨hlt, hi⟩ := freeChannel_eq_some hf
    have hgen := h.generateHandler_eq i
    have hpos := handleOf_pos w.made i
    have hmod := handleOf_mod (Nat.lt_trans hlt (by decide)) w.made
    dsimp only
    rw [hgen]
    unfold noteChannel
    rw [if_neg (Nat.ne_of_gt hpos)]
    have hempty := h.empty hi
    have hd := h.draw
    have hother : ∀ k, k ≠ i → (if k = i then
        ({ myHdl := handleOf w.made i, state := .stopped, born := w.made } : ChannelObj)
        else w.ch k) = w.ch k := fun k hk => if_neg hk
    have hdead : ¬ w.ChannelLive (handleOf w.made i) := fun hl => by
      obtain ⟨k, hk, hh⟩ := h.live_iff.mp hl
      have hki := h.handle_mod hk
      rw [hh, hmod] at hki
      rw [← hki, hi] at hk
      cases hk
    refine ⟨hd.count, fun k => ?_, fun k l hl => ?_, fun n c => ?_, fun n c hm => ?_,
      fun k hk n c hm hc => ?_, fun k hk s => ?_, fun p hp => ?_, fun k l hl => ?_⟩
    · by_cases hk : k = i
      · subst hk
        have hself : (if k = k then
            ({ myHdl := handleOf w.made k, state := .stopped, born := w.made } : ChannelObj)
            else w.ch k) = _ := if_pos rfl
        exact .inr ⟨congrArg ChannelObj.state hself, hlt,
          (congrArg ChannelObj.myHdl hself).trans
            (congrArg (handleOf · k) (congrArg ChannelObj.born hself).symm),
          (congrArg ChannelObj.born hself).trans_lt (Nat.lt_succ_self _)⟩
      · rcases hd.slots k with he | hf
        · exact .inl ((hother k hk).trans he)
        · exact .inr (hf.of_ch_eq (hother k hk) (Nat.le_refl _))
    · change ((if k = i then _ else w.ch k : ChannelObj).streams l).state ≠ _ at hl
      show ((if k = i then _ else w.ch k : ChannelObj).streams l).state = _ ∧
        ((if k = i then _ else w.ch k : ChannelObj).streams l).myHdl ≠ _
      split at hl
      · exact absurd rfl hl
      · next hk =>
        rw [if_neg hk]
        exact h.streams k l hl
    · rw [List.mem_cons]
      constructor
      · rintro (he | hm)
        · obtain ⟨rfl, rfl⟩ := Prod.mk.inj he
          have hself : (if i = i then
              ({ myHdl := handleOf w.made i, state := .stopped, born := w.made } : ChannelObj)
              else w.ch i) = _ := if_pos rfl
          exact ⟨i, congrArg ChannelObj.state hself, congrArg ChannelObj.myHdl hself,
            congrArg ChannelObj.born hself⟩
        · obtain ⟨k, hk, hh, hb⟩ := (h.channels n c).mp hm
          have he := hother k (by rintro rfl; rw [hi] at hk; cases hk)
          exact ⟨k, (congrArg ChannelObj.state he).trans hk, (congrArg ChannelObj.myHdl he).trans hh,
            (congrArg ChannelObj.born he).trans hb⟩
      · rintro ⟨k, hk, hh, hb⟩
        change (if k = i then _ else w.ch k : ChannelObj).state = _ at hk
        change (if k = i then _ else w.ch k : ChannelObj).myHdl = _ at hh
        change (if k = i then _ else w.ch k : ChannelObj).born = _ at hb
        by_cases hki : k = i
        · rw [if_pos hki] at hh hb
          exact .inl (by rw [← hh, ← hb])
        · rw [if_neg hki] at hk hh hb
          exact .inr ((h.channels n c).mpr ⟨k, hk, hh, hb⟩)
    · rcases List.mem_cons.mp hm with he | hm
      · obtain ⟨rfl, rfl⟩ := Prod.mk.inj he
        exact ⟨by rw [hmod], Nat.lt_succ_self _⟩
      · exact hd.issued n c hm
    · change (if k = i then _ else w.ch k : ChannelObj).state = _ at hk
      show n ≤ (if k = i then _ else w.ch k : ChannelObj).born
      split at hk
      · next hki =>
        rw [if_pos hki]
        rcases List.mem_cons.mp hm with he | hm
        · exact Nat.le_of_eq (Prod.mk.inj he).1
        · exact Nat.le_of_lt (h.issued n c hm).2
      · next hki =>
        rw [if_neg hki]
        rcases List.mem_cons.mp hm with he | hm
        · obtain ⟨rfl, rfl⟩ := Prod.mk.inj he
          exact absurd (hc.symm.trans hmod) hki
        · exact h.latest k hk n c hm hc
    · change (if k = i then _ else w.ch k : ChannelObj).state = _ at hk
      show w.members.count ((if k = i then _ else w.ch k : ChannelObj).myHdl, s) =
        (if k = i then _ else w.ch k : ChannelObj).handles.count s
      split at hk
      · next hki =>
        rw [if_pos hki]
        have hnone : (handleOf w.made i, s) ∉ w.members := fun hm => hdead (h.known _ hm)
        rw [List.count_eq_zero_of_not_mem hnone]
        rfl
      · next hki =>
        rw [if_neg hki]
        exact h.members k hk s
    · obtain ⟨q, hq, he⟩ := h.known p hp
      exact ⟨q, List.mem_cons_of_mem _ hq, he⟩
    · change ((if k = i then _ else w.ch k : ChannelObj).streams l).state ≠ _ at hl
      split at hl
      · exact absurd rfl hl
      · exact h.bound k l hl

theorem setCh_empty (he : w.ch i = {}) : w.setCh i {} = w := by
  have hch : (fun k => if k = i then ({} : ChannelObj) else w.ch k) = w.ch := by
    funext k
    split
    · next hk => rw [hk, he]
    · rfl
  show { w with ch := fun k => if k = i then ({} : ChannelObj) else w.ch k } = w
  rw [hch]

theorem delChannel_cases (h : HandleInv w) (chId : Nat) :
    w.delChannel chId = (-1, w) ∨
      ∃ i, w.getChannelByHandler chId = some i ∧ (w.ch i).state = .stopped ∧
        (w.ch i).myHdl = chId ∧ w.delChannel chId = (0, w.setCh i {}) := by
  unfold World.delChannel
  cases hl : w.getChannelByHandler chId with
  | none => exact .inl rfl
  | some i =>
    rcases h.lookup_some hl with ⟨-, he⟩ | ⟨-, hs, hh⟩
    · refine .inl ?_
      dsimp only
      rw [setCh_empty he, he]
      rfl
    · have hne : (w.ch i).state ≠ .notused := by rw [hs]; decide
      refine .inr ⟨i, rfl, hs, hh, ?_⟩
      dsimp only
      rw [if_neg hne]

theorem delChannel (h : HandleInv w) (chId : Nat) :
    HandleInv ((w.delChannel chId).2.dropChannel chId (w.delChannel chId).1) := by
  rcases h.delChannel_cases chId with he | ⟨i, -, hi, hh, he⟩
  · rw [he]
    exact h
  · rw [he]
    show HandleInv { w.setCh i {} with
      channels := w.channels.filter fun p => p.2 ≠ chId
      members := w.members.filter fun p => p.1 ≠ chId }
    have hkeep : ∀ k, (w.ch k).state = .stopped → k ≠ i → (w.ch k).myHdl ≠ chId := fun k hk hki hc =>
      hki (h.unique hk hi (hc.trans hh.symm))
    refine ⟨h.count, fun k => ?_, fun k l hl => ?_, fun n c => ?_, h.issued,
      fun k hk n c hm hc => ?_, fun k hk s => ?_, fun p hp => ?_, fun k l hl => ?_⟩
    · by_cases hki : k = i
      · exact .inl (if_pos hki)
      · have he : (if k = i then ({} : ChannelObj) else w.ch k) = w.ch k := if_neg hki
        rcases h.slots k with hemp | hf
        · exact .inl (he.trans hemp)
        · exact .inr (hf.of_ch_eq he (Nat.le_refl _))
    · change ((if k = i then {} else w.ch k : ChannelObj).streams l).state ≠ _ at hl
      show ((if k = i then {} else w.ch k : ChannelObj).streams l).state = _ ∧
        ((if k = i then {} else w.ch k : ChannelObj).streams l).myHdl ≠ _
      split at hl
      · exact absurd rfl hl
      · next hki =>
        rw [if_neg hki]
        exact h.streams k l hl
    · rw [List.mem_filter, h.channels n c]
      constructor
      · rintro ⟨⟨k, hk, hkh, hb⟩, hc⟩
        have hki : k ≠ i := by
          rintro rfl
          exact absurd (hkh.symm.trans hh) (by simpa using hc)
        have he : (if k = i then ({} : ChannelObj) else w.ch k) = w.ch k := if_neg hki
        exact ⟨k, (congrArg ChannelObj.state he).trans hk, (congrArg ChannelObj.myHdl he).trans hkh,
          (congrArg ChannelObj.born he).trans hb⟩
      · rintro ⟨k, hk, hkh, hb⟩
        change (if k = i then {} else w.ch k : ChannelObj).state = _ at hk
        change (if k = i then {} else w.ch k : ChannelObj).myHdl = _ at hkh
        change (if k = i then {} else w.ch k : ChannelObj).born = _ at hb
        by_cases hki : k = i
        · rw [if_pos hki] at hk
          cases hk
        · rw [if_neg hki] at hk hkh hb
          exact ⟨⟨k, hk, hkh, hb⟩, by simpa [← hkh] using hkeep k hk hki⟩
    · change (if k = i then {} else w.ch k : ChannelObj).state = _ at hk
      show n ≤ (if k = i then {} else w.ch k : ChannelObj).born
      split at hk
      · cases hk
      · next hki =>
        rw [if_neg hki]
        exact h.latest k hk n c hm hc
    · change (if k = i then {} else w.ch k : ChannelObj).state = _ at hk
      show (w.members.filter fun p => p.1 ≠ chId).count
          ((if k = i then {} else w.ch k : ChannelObj).myHdl, s) =
        (if k = i then {} else w.ch k : ChannelObj).handles.count s
      split at hk
      · cases hk
      · next hki =>
        rw [if_neg hki, List.count_filter (by simpa using hkeep k hk hki)]
        exact h.members k hk s
    · obtain ⟨hp, hc⟩ := List.mem_filter.mp hp
      obtain ⟨q, hq, he⟩ := h.known p hp
      exact ⟨q, List.mem_filter.mpr ⟨hq, by rw [he]; exact hc⟩, he⟩
    · change ((if k = i then {} else w.ch k : ChannelObj).streams l).state ≠ _ at hl
      split at hl
      · exact absurd rfl hl
      · exact h.bound k l hl

theorem addStream (h : HandleInv w) (chId : Nat) (acquired : Bool) :
    HandleInv ((w.addStream chId acquired).2.noteMember chId (w.addStream chId acquired).1) := by
  unfold World.addStream
  cases hl : w.getChannelByHandler chId with
  | none => exact h
  | some i =>
    dsimp only
    by_cases hi : (w.ch i).state = .stopped
    · have hh : (w.ch i).myHdl = chId := (getChannelByHandler_eq_some hl).2.symm
      rw [if_pos hi]
      unfold channelAddStream
      cases hf : (w.ch i).freeStream with
      | none => exact h
      | some j =>
        obtain ⟨hj, hold⟩ := freeStream_eq_some hf
        have hcur : ((w.ch i).streams j).handles = [] := if_pos hold
        have hpos := handleOf_pos w.made j
        dsimp only
        rw [h.generateHandler_eq j]
        cases acquired with
        | false =>
          refine h.exchange hi hj (fun hn => absurd rfl hn) rfl h.draw.count (Nat.le_succ _) rfl rfl fun c s => ?_
          rw [hcur]
          rfl
        | true =>
          simp only [if_true]
          unfold noteMember
          rw [if_neg (Nat.ne_of_gt hpos)]
          refine h.exchange hi hj (fun _ => ⟨rfl, Nat.ne_of_gt hpos⟩) rfl h.draw.count
            (Nat.le_succ _) rfl rfl fun c s => ?_
          have hnew : (StreamObj.handles ⟨handleOf w.made j, .acquired, i, w.made⟩) =
              [handleOf w.made j] := if_neg nofun
          rw [hcur, hnew, hh]
          show ((chId, handleOf w.made j) :: w.members).count (c, s) + _ = _
          rw [List.count_cons, List.count_singleton]
          by_cases hc : c = chId
          · subst hc
            by_cases hs : handleOf w.made j = s <;> simp [hs]
          · simp [hc, Ne.symm hc]
    · rw [if_neg hi]
      exact h

theorem linkStream (h : HandleInv w) (chId streamId linkedChId : Nat) :
    HandleInv ((w.linkStream chId streamId linkedChId).2.noteMember linkedChId
      (w.linkStream chId streamId linkedChId).1) := by
  unfold World.linkStream
  cases hl : w.getChannelByHandler linkedChId with
  | none => exact h
  | some i =>
    cases ho : w.getChannelByHandler chId with
    | none => exact h
    | some owner =>
      dsimp only
      by_cases hi : (w.ch i).state = .stopped
      · have hh : (w.ch i).myHdl = linkedChId := (getChannelByHandler_eq_some hl).2.symm
        rw [if_pos hi]
        unfold channelLinkStream
        cases hs : (w.ch owner).getStreamByHandler streamId with
        | none => exact h
        | some l =>
          cases hf : (w.ch i).freeStream with
          | none => exact h
          | some j =>
            obtain ⟨hj, hold⟩ := freeStream_eq_some hf
            have hcur : ((w.ch i).streams j).handles = [] := if_pos hold
            obtain ⟨-, hused, -⟩ := getStreamByHandler_eq_some hs
            have hok := h.streams owner l hused
            have hnew : ((w.ch owner).streams l).handles = [((w.ch owner).streams l).myHdl] :=
              if_neg hused
            unfold noteMember
            rw [if_neg hok.2]
            refine h.exchange hi hj (fun _ => hok) rfl h.count (Nat.le_refl _) rfl rfl fun c s => ?_
            rw [hcur, hnew, hh]
            show ((linkedChId, ((w.ch owner).streams l).myHdl) :: w.members).count (c, s) + _ = _
            rw [List.count_cons, List.count_singleton]
            by_cases hc : c = linkedChId
            · subst hc
              by_cases he : ((w.ch owner).streams l).myHdl = s <;> simp [he]
            · simp [hc, Ne.symm hc]
      · rw [if_neg hi]
        exact h

theorem channelDelStream_some (h : HandleInv w) {streamId : Nat}
    (hs : (w.ch i).getStreamByHandler streamId = some j) :
    channelDelStream i streamId w = (0, w.setCh i ((w.ch i).setStream j {})) := by
  obtain ⟨-, hused, -⟩ := getStreamByHandler_eq_some hs
  have hrel : ((w.ch i).streams j).release = (0, {}) := by
    unfold StreamObj.release
    rw [(h.streams i j hused).1]
  unfold channelDelStream
  rw [hs]
  dsimp only
  rw [hrel]
  split <;> rfl

theorem delStream_cases (h : HandleInv w) (chId streamId : Nat) :
    w.delStream chId streamId = (-1, w) ∨
      ∃ i j, w.getChannelByHandler chId = some i ∧ (w.ch i).state = .stopped ∧
        (w.ch i).myHdl = chId ∧ (w.ch i).getStreamByHandler streamId = some j ∧
        w.delStream chId streamId = (0, w.setCh i ((w.ch i).setStream j {})) := by
  unfold World.delStream
  cases hl : w.getChannelByHandler chId with
  | none => exact .inl rfl
  | some i =>
    rcases h.lookup_some hl with ⟨-, he⟩ | ⟨-, hi, hh⟩
    · exact .inl (by simp [he])
    · simp only [hi]
      cases hs : (w.ch i).getStreamByHandler streamId with
      | none => exact .inl (by simp [channelDelStream, hs])
      | some j => exact .inr ⟨i, j, rfl, hi, hh, hs, h.channelDelStream_some hs⟩

theorem delStream (h : HandleInv w) (chId streamId : Nat) :
    HandleInv ((w.delStream chId streamId).2.dropMember chId streamId
      (w.delStream chId streamId).1) := by
  rcases h.delStream_cases chId streamId with he | ⟨i, j, -, hi, hh, hs, he⟩
  · rw [he]
    exact h
  · obtain ⟨hj, hused, hsid⟩ := getStreamByHandler_eq_some hs
    have hcur : ((w.ch i).streams j).handles = [streamId] := by rw [hsid]; exact if_neg hused
    have hsome : streamId ∈ (w.ch i).handles :=
      getStreamByHandler_isSome.mp (Option.isSome_iff_exists.mpr ⟨j, hs⟩)
    have hmem : (chId, streamId) ∈ w.members := by
      have hm := (h.mem_members hi streamId).mpr hsome
      rw [hh] at hm
      exact hm
    rw [he]
    show HandleInv { w.setCh i ((w.ch i).setStream j {}) with
      members := w.members.erase (chId, streamId) }
    refine h.exchange hi hj (fun hn => absurd rfl hn) rfl h.count (Nat.le_refl _) rfl rfl
      fun c s => ?_
    have hpos := List.count_pos_iff.mpr hmem
    have hnil : ({} : StreamObj).handles = [] := rfl
    show (w.members.erase (chId, streamId)).count (c, s) + _ = _
    rw [hcur, hnil, hh, List.count_erase, List.count_singleton]
    by_cases hc : c = chId
    · subst hc
      by_cases hss : streamId = s
      · subst hss
        simp
        omega
      · simp [hss]
    · simp [hc, Ne.symm hc]

theorem step (h : HandleInv w) (op : Op) (hs : Handles.step w op = some w') : HandleInv w' := by
  cases op with
  | addChannel =>
    obtain rfl := Option.some.inj hs
    exact h.addChannel
  | delChannel chId =>
    obtain rfl := Option.some.inj hs
    exact h.delChannel chId
  | addStream chId acquired =>
    obtain rfl := Option.some.inj hs
    exact h.addStream chId acquired
  | linkStream chId streamId linkedChId =>
    obtain rfl := Option.some.inj hs
    exact h.linkStream chId streamId linkedChId
  | delStream chId streamId =>
    obtain rfl := Option.some.inj hs
    exact h.delStream chId streamId
  | draw =>
    obtain rfl := Option.some.inj hs
    exact h.draw

end HandleInv

end Wt88047.Handles
