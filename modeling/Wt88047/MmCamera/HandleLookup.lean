import Wt88047.MmCamera.ChannelHandles

/-! What the lookups of channels and streams find, after every history. -/

namespace Wt88047.Handles

open World

def historyAt : Nat → Nat
  | 0 => 0
  | n + 1 => n % 65535 + 1

def handleOf (n i : Nat) : Nat := historyAt (n + 1) * 256 + i

theorem nextHistory_historyAt (n : Nat) : Camera.nextHistory (historyAt n) = historyAt (n + 1) := by
  unfold Camera.nextHistory
  cases n with
  | zero => rfl
  | succ n =>
    have hn : historyAt (n + 1) = n % 65535 + 1 := rfl
    have hs : historyAt (n + 1 + 1) = (n + 1) % 65535 + 1 := rfl
    split <;> omega

theorem handleOf_pos (n i : Nat) : 0 < handleOf n i := by
  simp only [handleOf, historyAt]
  omega

theorem handleOf_mod {i : Nat} (h : i < 256) (n : Nat) : handleOf n i % 256 = i := by
  simp only [handleOf, historyAt]
  omega

theorem handleOf_inj {m n i : Nat} (h : handleOf m i = handleOf n i) (hle : n ≤ m)
    (hlt : m < n + 65535) : m = n := by
  simp only [handleOf, historyAt] at h
  omega

section

variable {w : World} {i j handle : Nat} {c : ChannelObj}

theorem getChannelByHandler_eq_some (h : w.getChannelByHandler handle = some i) :
    i < channelMax ∧ handle = (w.ch i).myHdl := by
  have hi := List.mem_of_find?_eq_some h
  have he := List.find?_some h
  exact ⟨List.mem_range.mp hi, by simpa using he⟩

theorem getChannelByHandler_isSome :
    (w.getChannelByHandler handle).isSome = true ↔
      ∃ i < channelMax, handle = (w.ch i).myHdl := by
  simp [World.getChannelByHandler, List.find?_isSome]

theorem getStreamByHandler_eq_some (h : c.getStreamByHandler handle = some j) :
    j < maxStreamNumInBundle ∧ (c.streams j).state ≠ .notUsed ∧ handle = (c.streams j).myHdl := by
  have hj := List.mem_of_find?_eq_some h
  have he := List.find?_some h
  exact ⟨List.mem_range.mp hj, by simpa using he⟩

theorem StreamObj.mem_handles {s : StreamObj} :
    handle ∈ s.handles ↔ s.state ≠ .notUsed ∧ handle = s.myHdl := by
  unfold StreamObj.handles
  split <;> simp_all

theorem getStreamByHandler_isSome :
    (c.getStreamByHandler handle).isSome = true ↔ handle ∈ c.handles := by
  unfold ChannelObj.getStreamByHandler ChannelObj.handles
  rw [List.find?_isSome, List.mem_flatMap]
  simp only [StreamObj.mem_handles, decide_eq_true_eq]

theorem freeStream_eq_some (h : c.freeStream = some j) :
    j < maxStreamNumInBundle ∧ (c.streams j).state = .notUsed := by
  have hj := List.mem_of_find?_eq_some h
  have he := List.find?_some h
  exact ⟨List.mem_range.mp hj, by simpa using he⟩

theorem freeChannel_eq_some (h : w.freeChannel = some i) :
    i < channelMax ∧ (w.ch i).state = .notused := by
  have hi := List.mem_of_find?_eq_some h
  have he := List.find?_some h
  exact ⟨List.mem_range.mp hi, by simpa using he⟩

theorem handles_setStream (hj : j < maxStreamNumInBundle) (s : StreamObj) (h : Nat) :
    (c.setStream j s).handles.count h + (c.streams j).handles.count h =
      c.handles.count h + s.handles.count h := by
  have hx := Tally.count_flatMap_exchange (f := fun l => (c.streams l).handles)
    (g := fun l => ((c.setStream j s).streams l).handles) List.nodup_range (List.mem_range.mpr hj)
    (fun l _ hl => by rw [ChannelObj.setStream]; simp only [if_neg hl]) h
  have hself : (c.setStream j s).streams j = s := if_pos rfl
  rw [hself] at hx
  exact hx

end

structure Filled (w : World) (i : Nat) : Prop where
  state : (w.ch i).state = .stopped
  lt : i < channelMax
  handle : (w.ch i).myHdl = handleOf (w.ch i).born i
  made : (w.ch i).born < w.made

structure HandleInv (w : World) : Prop where
  count : w.history = historyAt w.made
  slots : ∀ i, w.ch i = {} ∨ Filled w i
  streams : ∀ i j, ((w.ch i).streams j).state ≠ .notUsed →
    ((w.ch i).streams j).state = .acquired ∧ ((w.ch i).streams j).myHdl ≠ 0
  channels : ∀ n h, (n, h) ∈ w.channels ↔
    ∃ i, (w.ch i).state = .stopped ∧ (w.ch i).myHdl = h ∧ (w.ch i).born = n
  issued : ∀ n h, (n, h) ∈ w.issued → h = handleOf n (h % 256) ∧ n < w.made
  latest : ∀ i, (w.ch i).state = .stopped → ∀ n h, (n, h) ∈ w.issued → h % 256 = i →
    n ≤ (w.ch i).born
  members : ∀ i, (w.ch i).state = .stopped → ∀ s,
    w.members.count ((w.ch i).myHdl, s) = (w.ch i).handles.count s
  known : ∀ p ∈ w.members, w.ChannelLive p.1
  bound : ∀ i j, ((w.ch i).streams j).state ≠ .notUsed → j < maxStreamNumInBundle

def Sourced (w : World) : Prop :=
  ∀ i j, ((w.ch i).streams j).state ≠ .notUsed → w.Present ((w.ch i).streams j)

namespace HandleInv

variable {w : World} {i k handle : Nat}

theorem filled (h : HandleInv w) (hs : (w.ch i).state ≠ .notused) : Filled w i := by
  rcases h.slots i with he | hf
  · rw [he] at hs
    exact absurd rfl hs
  · exact hf

theorem empty (h : HandleInv w) (hs : (w.ch i).state = .notused) : w.ch i = {} := by
  rcases h.slots i with he | hf
  · exact he
  · rw [hf.state] at hs
    cases hs

theorem handle_mod (h : HandleInv w) (hs : (w.ch i).state = .stopped) :
    (w.ch i).myHdl % 256 = i := by
  have hf := h.filled (i := i) (by rw [hs]; decide)
  rw [hf.handle]
  exact handleOf_mod (Nat.lt_trans hf.lt (by decide)) _

theorem unique (h : HandleInv w) (hi : (w.ch i).state = .stopped) (hk : (w.ch k).state = .stopped)
    (he : (w.ch i).myHdl = (w.ch k).myHdl) : i = k := by
  rw [← h.handle_mod hi, he, h.handle_mod hk]

theorem live_iff (h : HandleInv w) :
    w.ChannelLive handle ↔ ∃ i, (w.ch i).state = .stopped ∧ (w.ch i).myHdl = handle := by
  constructor
  · rintro ⟨⟨n, handle⟩, hm, rfl⟩
    obtain ⟨i, hs, hh, -⟩ := (h.channels n handle).mp hm
    exact ⟨i, hs, hh⟩
  · rintro ⟨i, hs, hh⟩
    exact ⟨((w.ch i).born, handle), (h.channels _ _).mpr ⟨i, hs, hh, rfl⟩, rfl⟩

theorem lookup_some (h : HandleInv w) (hl : w.getChannelByHandler handle = some i) :
    (handle = 0 ∧ w.ch i = {}) ∨
      (handle ≠ 0 ∧ (w.ch i).state = .stopped ∧ (w.ch i).myHdl = handle) := by
  obtain ⟨-, hh⟩ := getChannelByHandler_eq_some hl
  rcases h.slots i with he | hf
  · exact .inl ⟨by rw [hh, he], he⟩
  · have hpos := handleOf_pos (w.ch i).born i
    rw [← hf.handle, ← hh] at hpos
    exact .inr ⟨Nat.ne_of_gt hpos, hf.state, hh.symm⟩

theorem lookup_live (h : HandleInv w) (hs : (w.ch i).state = .stopped)
    (hh : (w.ch i).myHdl = handle) : w.getChannelByHandler handle = some i := by
  have hf := h.filled (i := i) (by rw [hs]; decide)
  have hsome : (w.getChannelByHandler handle).isSome = true :=
    getChannelByHandler_isSome.mpr ⟨i, hf.lt, hh.symm⟩
  obtain ⟨k, hk⟩ := Option.isSome_iff_exists.mp hsome
  have hpos := handleOf_pos (w.ch i).born i
  rw [← hf.handle, hh] at hpos
  rcases h.lookup_some hk with ⟨h0, -⟩ | ⟨-, hks, hkh⟩
  · omega
  · rw [hk, h.unique hs hks (hh.trans hkh.symm)]

theorem lookup_dead (h : HandleInv w) (hd : ¬ w.ChannelLive handle) :
    w.getChannelByHandler handle = none ∨
      ∃ i, w.getChannelByHandler handle = some i ∧ handle = 0 ∧ w.ch i = {} := by
  cases hl : w.getChannelByHandler handle with
  | none => exact .inl rfl
  | some i =>
    rcases h.lookup_some hl with ⟨h0, he⟩ | ⟨-, hs, hh⟩
    · exact .inr ⟨i, rfl, h0, he⟩
    · exact absurd (h.live_iff.mpr ⟨i, hs, hh⟩) hd

theorem mem_members (h : HandleInv w) (hs : (w.ch i).state = .stopped) (s : Nat) :
    ((w.ch i).myHdl, s) ∈ w.members ↔ s ∈ (w.ch i).handles := by
  rw [← List.count_pos_iff, ← List.count_pos_iff, h.members i hs s]

end HandleInv

end Wt88047.Handles
