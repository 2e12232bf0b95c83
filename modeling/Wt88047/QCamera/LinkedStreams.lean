import Mathlib.Data.List.Nodup
import Wt88047.Lib.Runs

/-! `QCameraChannel`: its own streams, and those linked from other channels until it stops. -/

namespace Wt88047.LinkedStreams

structure Stream where
  id : Nat
  channelHandle : Nat
  deriving DecidableEq

/-- `streams` is `mStreams`, which holds no NULL. The other lists are what happened so far: the
streams the channel made, those linked since it last stopped, and those of other channels that are
deleted. -/
structure Channel where
  handle : Nat
  streams : List Stream := []
  added : List Stream := []
  linked : List Stream := []
  deleted : List Stream := []

/-- `m_handle == mStreams[i]->getChannelHandle()` -/
def Channel.own (c : Channel) (s : Stream) : Bool := c.handle == s.channelHandle

def maxStreamNumInBundle : Nat := 4

def addStream (id : Nat) (c : Channel) : Channel :=
  if maxStreamNumInBundle ≤ c.streams.length then c
  else
    let s := { id, channelHandle := c.handle }
    { c with streams := c.streams ++ [s], added := c.added ++ [s] }

/-- `linkHandle` is what `link_stream` returns. -/
def linkStream (s : Stream) (linkHandle : Nat) (c : Channel) : Channel :=
  if c.handle = 0 then c
  else if linkHandle = 0 then c
  else { c with streams := c.streams ++ [s], linked := c.linked ++ [s] }

/-- The loop of `stop` from index `i` on. -/
def linkedIdx (own : Stream → Bool) : List Stream → Nat → Int → Int
  | [], _, idx => idx
  | s :: rest, i, idx => linkedIdx own rest (i + 1) (if own s then idx else i)

def stop (c : Channel) : Channel :=
  let idx := linkedIdx c.own c.streams 0 (-1)
  { c with
    streams := if 0 < idx then c.streams.eraseIdx idx.toNat else c.streams
    linked := [] }

inductive Request
  | addStream (id : Nat)
  | linkStream (s : Stream) (linkHandle : Nat)
  | stop
  | ownerDeletes (s : Stream)

/-- Requests that the callers do not make are refused: a new stream is a new object, a stream is
linked from another channel, while it exists, and once until the next stop, and it is deleted when
it is no longer linked. -/
def step (c : Channel) : Request → Option Channel
  | .addStream id => if ∃ s ∈ c.added, s.id = id then none else some (addStream id c)
  | .linkStream s linkHandle =>
    if c.own s = true ∨ s ∈ c.linked ∨ s ∈ c.deleted then none else some (linkStream s linkHandle c)
  | .stop => some (stop c)
  | .ownerDeletes s => if c.own s = true ∨ s ∈ c.linked then none else some { c with deleted := s :: c.deleted }

/-- The list holds the channel's own streams in their order, each stream linked since the last stop
once, and nothing that is deleted; after a stop it holds the own ones alone. -/
structure Listed (c : Channel) : Prop where
  own : c.streams.filter c.own = c.added
  linked : c.streams.filter (fun s => !c.own s) = c.linked
  nodup : c.streams.Nodup
  alive : ∀ s ∈ c.streams, s ∉ c.deleted
  stopped : c.linked = [] → c.streams = c.added

variable {own : Stream → Bool} {l pre post : List Stream} {s : Stream} {c d : Channel}

theorem linkedIdx_own (h : ∀ s ∈ l, own s = true) (i : Nat) (idx : Int) : linkedIdx own l i idx = idx := by
  induction l generalizing i with
  | nil => rfl
  | cons s l ih =>
    rw [linkedIdx, if_pos (h s (List.mem_cons_self ..))]
    exact ih (fun t ht => h t (List.mem_cons_of_mem _ ht)) (i + 1)

theorem linkedIdx_last (hs : own s = false) (hpost : ∀ t ∈ post, own t = true) (i : Nat) (idx : Int) :
    linkedIdx own (pre ++ s :: post) i idx = ((i + pre.length : Nat) : Int) := by
  induction pre generalizing i idx with
  | nil =>
    rw [List.nil_append, linkedIdx, linkedIdx_own hpost, if_neg (by simp [hs])]
    rfl
  | cons t pre ih =>
    rw [List.cons_append, linkedIdx, ih, List.length_cons]
    congr 1
    omega

theorem all_own_or_last_linked (own : Stream → Bool) (l : List Stream) :
    (∀ s ∈ l, own s = true) ∨
      ∃ pre s post, l = pre ++ s :: post ∧ own s = false ∧ ∀ t ∈ post, own t = true := by
  induction l with
  | nil => exact Or.inl (by simp)
  | cons t l ih =>
    rcases ih with hall | ⟨pre, s, post, rfl, hs, hpost⟩
    · cases ht : own t with
      | true => exact Or.inl (by simpa [ht] using hall)
      | false => exact Or.inr ⟨[], t, l, rfl, ht, hall⟩
    · exact Or.inr ⟨t :: pre, s, post, rfl, hs, hpost⟩

def Removable (own : Stream → Bool) (l : List Stream) : Prop :=
  (l.filter fun s => !own s).length ≤ 1 ∧ ∀ s ∈ l.head?, own s = true

theorem stop_streams_iff (c : Channel) : (stop c).streams = c.streams.filter c.own ↔ Removable c.own c.streams := by
  unfold stop Removable
  dsimp only
  rcases all_own_or_last_linked c.own c.streams with hall | ⟨pre, s, post, hsplit, hs, hpost⟩
  · rw [linkedIdx_own hall, if_neg (by decide), List.filter_eq_self.mpr hall]
    refine iff_of_true rfl ⟨?_, fun s hs => hall s (List.mem_of_mem_head? hs)⟩
    rw [List.filter_eq_nil_iff.mpr (by simpa using hall)]
    exact Nat.zero_le 1
  · rw [hsplit, linkedIdx_last hs hpost, Nat.zero_add]
    cases pre with
    | nil =>
      rw [List.length_nil, if_neg (by decide)]
      refine iff_of_false (fun heq => ?_) (by simp [hs])
      have hmem : s ∈ ([] ++ s :: post).filter c.own := heq ▸ List.mem_cons_self ..
      rw [(List.mem_filter.mp hmem).2] at hs
      cases hs
    | cons t pre =>
      have hown : (s :: post).filter c.own = post := by
        rw [List.filter_cons_of_neg (by simp [hs]), List.filter_eq_self.mpr hpost]
      have hlinked : (s :: post).filter (fun u => !c.own u) = [s] := by
        rw [List.filter_cons_of_pos (by simp [hs]), List.filter_eq_nil_iff.mpr (by simpa using hpost)]
      have hfront : t :: pre = (t :: pre).filter c.own ↔ ∀ u ∈ t :: pre, c.own u = true :=
        eq_comm.trans List.filter_eq_self
      rw [if_pos (by simp), Int.toNat_natCast, List.eraseIdx_append_of_length_le (Nat.le_refl _),
        Nat.sub_self, List.eraseIdx_cons_zero, List.filter_append, hown, List.append_left_inj, hfront,
        List.filter_append, hlinked, List.length_append]
      constructor
      · intro hall
        have hnone : (t :: pre).filter (fun u => !c.own u) = [] :=
          List.filter_eq_nil_iff.mpr fun u hu => by simp [hall u hu]
        rw [hnone]
        refine ⟨Nat.le_refl 1, fun u hu => ?_⟩
        obtain rfl : t = u := Option.some.inj hu
        exact hall t (List.mem_cons_self ..)
      · rintro ⟨hlength, -⟩ u hu
        have hnil : (t :: pre).filter (fun u => !c.own u) = [] :=
          List.length_eq_zero_iff.mp (Nat.le_zero.mp (Nat.le_of_succ_le_succ hlength))
        simpa using List.filter_eq_nil_iff.mp hnil u hu

def Request.Fits (c : Channel) : Request → Prop
  | .stop => Removable c.own c.streams
  | _ => True

structure Sound (c : Channel) : Prop where
  listed : Listed c
  foreign : ∀ s ∈ c.deleted, c.own s = false

theorem sound_init (handle : Nat) : Sound { handle } where
  listed := ⟨rfl, rfl, List.nodup_nil, fun _ h => absurd h List.not_mem_nil, fun _ => rfl⟩
  foreign _ h := absurd h List.not_mem_nil

theorem Listed.added_sub (h : Listed c) (hs : s ∈ c.streams) (hown : c.own s = true) : s ∈ c.added := by
  rw [← h.own]
  exact List.mem_filter.mpr ⟨hs, hown⟩

theorem Listed.linked_sub (h : Listed c) (hs : s ∈ c.streams) (hown : c.own s = false) : s ∈ c.linked := by
  rw [← h.linked]
  exact List.mem_filter.mpr ⟨hs, by simp [hown]⟩

theorem Listed.nodup_append (h : Listed c) (hs : s ∉ c.streams) : (c.streams ++ [s]).Nodup := by
  rw [List.nodup_append]
  refine ⟨h.nodup, List.nodup_singleton s, fun t ht u hu => ?_⟩
  rw [List.mem_singleton.mp hu]
  rintro rfl
  exact hs ht

theorem Listed.alive_append (h : Listed c) (hs : s ∉ c.deleted) : ∀ t ∈ c.streams ++ [s], t ∉ c.deleted := by
  intro t ht
  rcases List.mem_append.mp ht with ht | ht
  · exact h.alive t ht
  · rwa [List.mem_singleton.mp ht]

theorem Sound.addStream (h : Sound c) {id : Nat} (hnew : ¬∃ s ∈ c.added, s.id = id) :
    Sound (addStream id c) := by
  obtain ⟨hlist, hforeign⟩ := h
  unfold LinkedStreams.addStream
  split
  · exact ⟨hlist, hforeign⟩
  · have hself : c.own { id, channelHandle := c.handle } = true := by simp [Channel.own]
    have hfresh : ({ id, channelHandle := c.handle } : Stream) ∉ c.streams :=
      fun hmem => hnew ⟨_, hlist.added_sub hmem hself, rfl⟩
    refine ⟨⟨?_, ?_, hlist.nodup_append hfresh, hlist.alive_append fun hmem => ?_, ?_⟩, hforeign⟩
    · change (c.streams ++ _).filter c.own = _
      rw [List.filter_append, hlist.own, List.filter_cons_of_pos hself]
      rfl
    · change (c.streams ++ _).filter (fun s => !c.own s) = c.linked
      rw [List.filter_append, hlist.linked, List.filter_cons_of_neg (by simp [hself])]
      exact List.append_nil _
    · rw [hforeign _ hmem] at hself
      cases hself
    · intro hnone
      exact congrArg (· ++ _) (hlist.stopped hnone)

theorem Sound.linkStream (h : Sound c) {linkHandle : Nat}
    (hnew : ¬(c.own s = true ∨ s ∈ c.linked ∨ s ∈ c.deleted)) : Sound (linkStream s linkHandle c) := by
  obtain ⟨hlist, hforeign⟩ := h
  obtain ⟨hown, hlinked, hdeleted⟩ : c.own s = false ∧ s ∉ c.linked ∧ s ∉ c.deleted := by
    simpa [not_or] using hnew
  unfold LinkedStreams.linkStream
  split
  · exact ⟨hlist, hforeign⟩
  split
  · exact ⟨hlist, hforeign⟩
  refine ⟨⟨?_, ?_, hlist.nodup_append fun hmem => hlinked (hlist.linked_sub hmem hown),
    hlist.alive_append hdeleted, ?_⟩, hforeign⟩
  · change (c.streams ++ _).filter c.own = c.added
    rw [List.filter_append, hlist.own, List.filter_cons_of_neg (by simp [hown])]
    exact List.append_nil _
  · change (c.streams ++ _).filter (fun s => !c.own s) = _
    rw [List.filter_append, hlist.linked, List.filter_cons_of_pos (by simp [hown])]
    rfl
  · intro hnone
    cases List.append_ne_nil_of_right_ne_nil c.linked (List.cons_ne_nil s []) hnone

theorem Sound.stop (h : Sound c) (hfits : Removable c.own c.streams) : Sound (stop c) := by
  obtain ⟨hlist, hforeign⟩ := h
  have hstreams : (LinkedStreams.stop c).streams = c.added :=
    ((stop_streams_iff c).mpr hfits).trans hlist.own
  have hown : ∀ s ∈ c.added, c.own s = true := by
    intro s hs
    rw [← hlist.own] at hs
    exact (List.mem_filter.mp hs).2
  refine ⟨⟨?_, ?_, ?_, ?_, fun _ => hstreams⟩, hforeign⟩
  · rw [hstreams]
    exact List.filter_eq_self.mpr hown
  · rw [hstreams]
    refine List.filter_eq_nil_iff.mpr fun s hs => ?_
    change ¬(!c.own s) = true
    simp [hown s hs]
  · rw [hstreams, ← hlist.own]
    exact hlist.nodup.filter _
  · intro s hs
    rw [hstreams, ← hlist.own] at hs
    exact hlist.alive s (List.mem_filter.mp hs).1

theorem Sound.ownerDeletes (h : Sound c) (hs : ¬(c.own s = true ∨ s ∈ c.linked)) :
    Sound { c with deleted := s :: c.deleted } := by
  obtain ⟨hlist, hforeign⟩ := h
  obtain ⟨hown, hlinked⟩ : c.own s = false ∧ s ∉ c.linked := by simpa [not_or] using hs
  refine ⟨⟨hlist.own, hlist.linked, hlist.nodup, ?_, hlist.stopped⟩, ?_⟩
  · intro t ht hmem
    rcases List.mem_cons.mp hmem with rfl | hmem
    · exact hlinked (hlist.linked_sub ht hown)
    · exact hlist.alive t ht hmem
  · intro t ht
    rcases List.mem_cons.mp ht with rfl | ht
    · exact hown
    · exact hforeign t ht

theorem step_sound {r : Request} (h : Sound c) (hfits : r.Fits c) (hstep : step c r = some d) : Sound d := by
  cases r with
  | addStream id =>
    rw [step] at hstep
    split at hstep
    · cases hstep
    · next hnew =>
      obtain rfl := Option.some.inj hstep
      exact h.addStream hnew
  | linkStream s linkHandle =>
    rw [step] at hstep
    split at hstep
    · cases hstep
    · next hnew =>
      obtain rfl := Option.some.inj hstep
      exact h.linkStream hnew
  | stop =>
    obtain rfl := Option.some.inj hstep
    exact h.stop hfits
  | ownerDeletes s =>
    rw [step] at hstep
    split at hstep
    · cases hstep
    · next hs =>
      obtain rfl := Option.some.inj hstep
      exact h.ownerDeletes hs

theorem fits_of_listed {r : Request} (h : Sound c) (hstep : step c r = some d) (hd : Listed d) : r.Fits c := by
  cases r with
  | stop =>
    obtain rfl := Option.some.inj hstep
    exact (stop_streams_iff c).mp ((hd.stopped rfl).trans h.listed.own.symm)
  | _ => trivial

/-- All along a run the list is as it should be, just if each stop finds at most one linked stream,
and that not at the head. -/
theorem linked_streams_listed_iff {handle : Nat} {run : List Request} {c : Channel}
    (h : Runs.play step { handle } run = some c) :
    Runs.Along step (fun c r => r.Fits c) { handle } run ↔
      ∀ pre post, run = pre ++ post → ∀ d, Runs.play step { handle } pre = some d → Listed d :=
  Runs.along_iff_prefixes (fun _ _ _ hc (_ : True) hfits hstep => step_sound hc hfits hstep)
    (fun _ hc => hc.listed) (fun _ _ _ hc _ hstep hd => fits_of_listed hc hstep hd) (sound_init handle)
    (Runs.Along.of_forall (fun _ _ _ => trivial) _) h

/-- A stream of the metadata channel, linked and unlinked and linked again. -/
theorem linked_streams_listed_once :
    ∃ c, Runs.play step { handle := 1 } [.addStream 0, .linkStream ⟨7, 2⟩ 1, .stop, .linkStream ⟨7, 2⟩ 1] =
        some c ∧
      (Runs.Along step (fun c r => r.Fits c) { handle := 1 }
          [.addStream 0, .linkStream ⟨7, 2⟩ 1, .stop, .linkStream ⟨7, 2⟩ 1] ↔
        ∀ pre post, [Request.addStream 0, .linkStream ⟨7, 2⟩ 1, .stop, .linkStream ⟨7, 2⟩ 1] = pre ++ post →
          ∀ d, Runs.play step { handle := 1 } pre = some d → Listed d) :=
  ⟨_, rfl, linked_streams_listed_iff rfl⟩

/-- Of two linked streams one stays, and so does one at the head of the list. -/
theorem linked_stream_left_after_stop :
    (∃ c, Runs.play step { handle := 1 } [.addStream 0, .linkStream ⟨7, 2⟩ 1, .linkStream ⟨8, 2⟩ 1, .stop] =
        some c ∧ c.streams ≠ c.streams.filter c.own) ∧
      ∃ c, Runs.play step { handle := 1 } [.linkStream ⟨7, 2⟩ 1, .addStream 0, .stop] = some c ∧
        c.streams ≠ c.streams.filter c.own :=
  ⟨⟨_, rfl, by decide⟩, ⟨_, rfl, by decide⟩⟩

end Wt88047.LinkedStreams
