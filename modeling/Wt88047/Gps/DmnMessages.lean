import Mathlib.Data.List.Forall2
import Wt88047.Lib.Bytes

/-! The messages between the daemons, which go through a pipe with their size in front. A `size_t` has four bytes. -/

namespace Wt88047.DmnMessages

open Bytes

/-- A `size_t` as an `int`. -/
def int (n : Nat) : Int := if n < 2 ^ 31 then n else n - 2 ^ 32

/-- A `ctrl_msgbuf` of any type: what follows its field `msgsz`. -/
structure Message where
  payload : List UInt8
  fits : payload.length + 4 < 2 ^ 32

def Message.msgsz (m : Message) : Nat := m.payload.length + 4

def Message.bytes (m : Message) : List UInt8 := Bytes.bytes 4 m.msgsz ++ m.payload

/-- What is in the pipe, and what is to come of its reads: an error, or no more than so many bytes. -/
structure Pipe where
  stream : List UInt8
  reads : Nat → Option Nat

def Pipe.delivered (pipe : Pipe) (sz : Nat) : List UInt8 :=
  match pipe.reads 0 with
  | none => []
  | some most => pipe.stream.take (min most sz)

def Pipe.after (pipe : Pipe) (sz : Nat) : Pipe :=
  ⟨pipe.stream.drop (pipe.delivered sz).length, fun i => pipe.reads (i + 1)⟩

def piperead (pipe : Pipe) (sz : Nat) : Int × List UInt8 × Pipe :=
  (match pipe.reads 0 with
    | none => -1
    | some _ => int (pipe.delivered sz).length,
    pipe.delivered sz, pipe.after sz)

/-- A `write` that fails, or takes no more than so many bytes. -/
def pipewrite (stream buf : List UInt8) : Option Nat → Int × List UInt8
  | none => (-1, stream)
  | some most => (int (min most buf.length), stream ++ buf.take most)

def msgsnd (stream : List UInt8) (m : Message) (written : Option Nat) : Int × List UInt8 :=
  let (result, stream) := pipewrite stream m.bytes written
  if result ≠ int m.msgsz then (-1, stream) else (result, stream)

inductive Received
  | pipeBroken
  | tooSmall
  | message (msgsz : Nat)

def Received.result : Received → Int
  | .pipeBroken => -1
  | .tooSmall => -1
  | .message msgsz => int msgsz

def store (msgp : List UInt8) (offset : Nat) (bytes : List UInt8) : Option (List UInt8) :=
  if bytes = [] ∨ offset + bytes.length ≤ msgp.length then
    some (msgp.take offset ++ bytes ++ msgp.drop (offset + bytes.length))
  else none

/-- `pmsg->msgsz - sizeof(pmsg->msgsz)`, in a `size_t`. -/
def bodySize (msgsz : Nat) : Nat := (msgsz + 2 ^ 32 - 4) % 2 ^ 32

def msgrcvBody (msgp : List UInt8) (pipe : Pipe) : Option (Received × List UInt8 × Pipe) :=
  let msgsz := word (msgp.take 4)
  if msgp.length < msgsz then some (.tooSmall, msgp, pipe)
  else
    let (result, body, pipe) := piperead pipe (bodySize msgsz)
    (store msgp 4 body).map fun msgp =>
      (if result ≠ int (bodySize msgsz) then .pipeBroken else .message msgsz, msgp, pipe)

def msgrcv (msgp : List UInt8) (pipe : Pipe) : Option (Received × List UInt8 × Pipe) :=
  let (result, header, pipe) := piperead pipe 4
  (store msgp 0 header).bind fun msgp =>
    if result ≠ 4 then some (.pipeBroken, msgp, pipe) else msgrcvBody msgp pipe

def msgflush : Nat → (Nat → Int) → Option Int
  | 0, _ => none
  | n + 1, results => if results 0 ≠ 0 then msgflush n fun i => results (i + 1) else some 0

theorem int_inj {n m : Nat} (hn : n < 2 ^ 32) (hm : m < 2 ^ 32) (h : int n = int m) : n = m := by
  unfold int at h
  split at h <;> split at h <;> omega

theorem int_eq_iff {n : Nat} (hn : n < 2 ^ 32) : int n = n ↔ n < 2 ^ 31 := by
  unfold int
  split <;> omega

theorem length_bytes (m : Message) : m.bytes.length = m.msgsz := by
  rw [Message.bytes, List.length_append, Bytes.length_bytes, Message.msgsz, Nat.add_comm]

theorem msgsnd_result (stream : List UInt8) (m : Message) (written : Option Nat) :
    (msgsnd stream m written).1 = (msgsnd [] m written).1 := by
  cases written with
  | none =>
    unfold msgsnd pipewrite
    dsimp only
    split <;> rfl
  | some most =>
    unfold msgsnd pipewrite
    dsimp only
    split <;> rfl

theorem msgsnd_sent {m : Message} {written : Option Nat} (h : (msgsnd [] m written).1 ≠ -1) (stream : List UInt8) :
    (msgsnd stream m written).2 = stream ++ m.bytes := by
  rw [← msgsnd_result stream] at h
  have hsize : m.msgsz < 2 ^ 32 := m.fits
  unfold msgsnd at h ⊢
  cases written with
  | none =>
    dsimp only [pipewrite] at h
    split at h <;> exact absurd rfl h
  | some most =>
    dsimp only [pipewrite] at h ⊢
    split at h
    · exact absurd rfl h
    · rename_i hresult
      rw [if_neg hresult]
      have hall := int_inj (by rw [length_bytes]; omega) hsize (not_not.mp hresult)
      rw [List.take_of_length_le (by rw [length_bytes] at hall ⊢; omega)]

structure Exchange where
  message : Message
  written : Option Nat
  msgp : List UInt8
  sent : (msgsnd [] message written).1 ≠ -1
  room : message.msgsz ≤ msgp.length

def sendAll (stream : List UInt8) : List Exchange → List UInt8
  | [] => stream
  | x :: xs => sendAll (msgsnd stream x.message x.written).2 xs

theorem sendAll_eq (xs : List Exchange) (stream : List UInt8) :
    sendAll stream xs = stream ++ xs.flatMap fun x => x.message.bytes := by
  induction xs generalizing stream with
  | nil => rw [sendAll, List.flatMap_nil, List.append_nil]
  | cons x xs ih => rw [sendAll, msgsnd_sent x.sent, ih, List.flatMap_cons, List.append_assoc]

def Full (read : Option Nat) (sz : Nat) : Prop := ∃ most, read = some most ∧ sz ≤ most

theorem piperead_full {pipe : Pipe} {sz : Nat} {bytes rest : List UInt8} (hfull : Full (pipe.reads 0) sz)
    (hstream : pipe.stream = bytes ++ rest) (hsz : bytes.length = sz) :
    piperead pipe sz = (int sz, bytes, ⟨rest, fun i => pipe.reads (i + 1)⟩) := by
  obtain ⟨most, hread, hmost⟩ := hfull
  have hbytes : pipe.delivered sz = bytes := by
    rw [Pipe.delivered, hread]
    dsimp only
    rw [Nat.min_eq_right hmost, hstream, ← hsz, List.take_left]
  rw [piperead, Pipe.after, hbytes, hread, hsz, hstream, ← hsz, List.drop_left]

theorem length_delivered_le (pipe : Pipe) (sz : Nat) : (pipe.delivered sz).length ≤ sz := by
  unfold Pipe.delivered
  split
  · exact Nat.zero_le sz
  · rw [List.length_take]
    omega

theorem piperead_short {pipe : Pipe} {sz : Nat} (hsz : sz < 2 ^ 32 - 1) (h : ¬ Full (pipe.reads 0) sz) :
    (piperead pipe sz).1 ≠ int sz := by
  intro hresult
  unfold piperead at hresult
  cases hread : pipe.reads 0 with
  | none =>
    rw [hread] at hresult
    unfold int at hresult
    dsimp only at hresult
    split at hresult <;> omega
  | some most =>
    rw [hread] at hresult
    have hle := length_delivered_le pipe sz
    have hlength := int_inj (by omega) (by omega) hresult
    rw [Pipe.delivered, hread] at hlength
    dsimp only at hlength
    rw [List.length_take] at hlength
    exact h ⟨most, hread, by omega⟩

theorem bodySize_le {msgsz : Nat} (h : 4 ≤ msgsz) : bodySize msgsz ≤ msgsz - 4 := by
  unfold bodySize
  omega

theorem bodySize_message (m : Message) : bodySize m.msgsz = m.payload.length := by
  have hsize := m.fits
  unfold bodySize Message.msgsz
  omega

theorem word_header (m : Message) : word (Bytes.bytes 4 m.msgsz) = m.msgsz := word_bytes m.fits

theorem store_eq {msgp bytes : List UInt8} {offset : Nat} (h : offset + bytes.length ≤ msgp.length) :
    store msgp offset bytes = some (msgp.take offset ++ bytes ++ msgp.drop (offset + bytes.length)) :=
  if_pos (.inr h)

theorem msgrcv_header {pipe : Pipe} {m : Message} {rest msgp : List UInt8} (hfull : Full (pipe.reads 0) 4)
    (hstream : pipe.stream = m.bytes ++ rest) (hroom : 4 ≤ msgp.length) :
    msgrcv msgp pipe = msgrcvBody (Bytes.bytes 4 m.msgsz ++ msgp.drop 4)
      ⟨m.payload ++ rest, fun i => pipe.reads (i + 1)⟩ := by
  have hread := piperead_full hfull (hstream.trans (List.append_assoc _ _ _)) (Bytes.length_bytes 4 m.msgsz)
  rw [msgrcv, hread]
  dsimp only
  rw [store_eq (by rwa [Nat.zero_add, Bytes.length_bytes]), Option.bind_some, if_neg (by decide), List.take_zero,
    List.nil_append, Nat.zero_add, Bytes.length_bytes]

theorem length_header {msgp : List UInt8} (v : Nat) (h : 4 ≤ msgp.length) :
    (Bytes.bytes 4 v ++ msgp.drop 4).length = msgp.length := by
  rw [List.length_append, Bytes.length_bytes, List.length_drop]
  omega

theorem take_header (v : Nat) (msgp : List UInt8) :
    (Bytes.bytes 4 v ++ msgp.drop 4).take 4 = Bytes.bytes 4 v := by
  rw [List.take_append_of_le_length (by rw [Bytes.length_bytes]), List.take_of_length_le (by rw [Bytes.length_bytes])]

theorem msgrcvBody_header {m : Message} {rest msgp : List UInt8} {reads : Nat → Option Nat}
    (hroom : m.msgsz ≤ msgp.length) :
    msgrcvBody (Bytes.bytes 4 m.msgsz ++ msgp.drop 4) ⟨m.payload ++ rest, reads⟩ =
      (store (Bytes.bytes 4 m.msgsz ++ msgp.drop 4) 4
        ((⟨m.payload ++ rest, reads⟩ : Pipe).delivered m.payload.length)).map fun msgp =>
          (if (piperead ⟨m.payload ++ rest, reads⟩ m.payload.length).1 ≠ int m.payload.length then .pipeBroken
            else .message m.msgsz, msgp, (⟨m.payload ++ rest, reads⟩ : Pipe).after m.payload.length) := by
  have hfour : 4 ≤ msgp.length := Nat.le_trans (Nat.le_add_left 4 m.payload.length) hroom
  rw [msgrcvBody]
  dsimp only
  rw [take_header, word_header, length_header _ hfour, if_neg (by omega), bodySize_message]
  rfl

theorem msgrcv_full {pipe : Pipe} {m : Message} {rest msgp : List UInt8} (hroom : m.msgsz ≤ msgp.length)
    (hheader : Full (pipe.reads 0) 4) (hbody : Full (pipe.reads 1) m.payload.length)
    (hstream : pipe.stream = m.bytes ++ rest) :
    msgrcv msgp pipe =
      some (.message m.msgsz, m.bytes ++ msgp.drop m.msgsz, ⟨rest, fun i => pipe.reads (i + 2)⟩) := by
  have hsize : m.msgsz = m.payload.length + 4 := rfl
  have hfour : 4 ≤ msgp.length := Nat.le_trans (Nat.le_add_left 4 m.payload.length) hroom
  have hread := @piperead_full ⟨m.payload ++ rest, fun i => pipe.reads (i + 1)⟩ m.payload.length m.payload rest hbody
    rfl rfl
  have hbytes := congrArg (·.2.1) hread
  have hafter := congrArg (·.2.2) hread
  dsimp only [piperead] at hbytes hafter
  rw [msgrcv_header hheader hstream hfour, msgrcvBody_header hroom, hread, hbytes, hafter,
    store_eq (by rw [length_header _ hfour]; omega), Option.map_some, if_neg (not_not.mpr rfl), take_header,
    List.drop_append, Bytes.length_bytes, Nat.add_sub_cancel_left, List.drop_drop]
  rw [List.drop_eq_nil_of_le (by rw [Bytes.length_bytes]; omega), List.nil_append, hsize, Nat.add_comm 4]
  rfl

theorem msgrcv_broken {pipe : Pipe} {msgp : List UInt8} (hshort : ¬ Full (pipe.reads 0) 4)
    {r : Received × List UInt8 × Pipe} (hr : msgrcv msgp pipe = some r) : r.1 = .pipeBroken := by
  have hresult : (piperead pipe 4).1 ≠ 4 := piperead_short (by omega) hshort
  rw [msgrcv, Option.bind_eq_some_iff] at hr
  obtain ⟨msgp', -, hr⟩ := hr
  rw [if_pos hresult] at hr
  cases hr
  rfl

theorem msgrcv_short {pipe : Pipe} {m : Message} {rest msgp : List UInt8} (hroom : m.msgsz ≤ msgp.length)
    (hshort : ¬ (Full (pipe.reads 0) 4 ∧ Full (pipe.reads 1) m.payload.length))
    (hstream : pipe.stream = m.bytes ++ rest) {r : Received × List UInt8 × Pipe} (hr : msgrcv msgp pipe = some r) :
    r.1 = .pipeBroken := by
  have hsize := m.fits
  have hfour : 4 ≤ msgp.length := Nat.le_trans (Nat.le_add_left 4 m.payload.length) hroom
  by_cases hheader : Full (pipe.reads 0) 4
  · rw [msgrcv_header hheader hstream hfour, msgrcvBody_header hroom, Option.map_eq_some_iff] at hr
    obtain ⟨_, -, rfl⟩ := hr
    exact if_pos (piperead_short (by omega) fun h => hshort ⟨hheader, h⟩)
  · exact msgrcv_broken hheader hr

def msgrcvAll : List (List UInt8) → Pipe → Option (List (Received × List UInt8))
  | [], _ => some []
  | msgp :: bufs, pipe =>
    (msgrcv msgp pipe).bind fun r => (msgrcvAll bufs r.2.2).map fun rs => (r.1, r.2.1) :: rs

def SameMessages (xs : List Exchange) (pipe : Pipe) : Prop :=
  ∃ rs, msgrcvAll (xs.map (·.msgp)) pipe = some rs ∧
    List.Forall₂ (fun x r => r.1.result = x.message.msgsz ∧ r.2.take x.message.msgsz = x.message.bytes) xs rs

def FullReads : (Nat → Option Nat) → List Exchange → Prop
  | _, [] => True
  | reads, x :: xs => Full (reads 0) 4 ∧ Full (reads 1) x.message.payload.length ∧ x.message.msgsz < 2 ^ 31 ∧
      FullReads (fun i => reads (i + 2)) xs

theorem sameMessages_iff (xs : List Exchange) (reads : Nat → Option Nat) :
    SameMessages xs ⟨xs.flatMap fun x => x.message.bytes, reads⟩ ↔ FullReads reads xs := by
  induction xs generalizing reads with
  | nil => exact ⟨fun _ => trivial, fun _ => ⟨[], rfl, .nil⟩⟩
  | cons x xs ih =>
    rw [FullReads]
    have hstream : (x :: xs).flatMap (fun x => x.message.bytes) =
        x.message.bytes ++ xs.flatMap fun x => x.message.bytes := List.flatMap_cons
    by_cases hfull : Full (reads 0) 4 ∧ Full (reads 1) x.message.payload.length
    · have hrcv := @msgrcv_full ⟨(x :: xs).flatMap fun x => x.message.bytes, reads⟩ x.message
        (xs.flatMap fun x => x.message.bytes) x.msgp x.room hfull.1 hfull.2 hstream
      have hrun : msgrcvAll ((x :: xs).map (·.msgp)) ⟨(x :: xs).flatMap fun x => x.message.bytes, reads⟩ =
          (msgrcvAll (xs.map (·.msgp)) ⟨xs.flatMap fun x => x.message.bytes, fun i => reads (i + 2)⟩).map
            fun rs => (.message x.message.msgsz, x.message.bytes ++ x.msgp.drop x.message.msgsz) :: rs := by
        rw [List.map_cons, msgrcvAll, hrcv]
        rfl
      have htake : (x.message.bytes ++ x.msgp.drop x.message.msgsz).take x.message.msgsz = x.message.bytes := by
        rw [← length_bytes, List.take_left]
      rw [SameMessages, hrun, and_iff_right hfull.1, and_iff_right hfull.2, ← ih, SameMessages]
      constructor
      · rintro ⟨rs, hrs, hsame⟩
        obtain ⟨rest, hrest, rfl⟩ := Option.map_eq_some_iff.mp hrs
        obtain ⟨⟨hresult, -⟩, hsame⟩ := List.forall₂_cons.mp hsame
        exact ⟨(int_eq_iff x.message.fits).mp hresult, rest, hrest, hsame⟩
      · rintro ⟨hsmall, rs, hrs, hsame⟩
        have hresult : (Received.message x.message.msgsz).result = x.message.msgsz :=
          (int_eq_iff x.message.fits).mpr hsmall
        exact ⟨_, by rw [hrs, Option.map_some], .cons ⟨hresult, htake⟩ hsame⟩
    · refine ⟨fun h => ?_, fun h => absurd ⟨h.1, h.2.1⟩ hfull⟩
      obtain ⟨rs, hrs, hsame⟩ := h
      rw [List.map_cons, msgrcvAll, Option.bind_eq_some_iff] at hrs
      obtain ⟨r, hr, hrs⟩ := hrs
      obtain ⟨rs, -, rfl⟩ := Option.map_eq_some_iff.mp hrs
      have hbroken := @msgrcv_short ⟨(x :: xs).flatMap fun x => x.message.bytes, reads⟩ x.message
        (xs.flatMap fun x => x.message.bytes) x.msgp x.room hfull hstream r hr
      have hresult := (List.forall₂_cons.mp hsame).1.1
      rw [hbroken] at hresult
      simp only [Received.result] at hresult
      omega

theorem store_isSome_iff (msgp bytes : List UInt8) (offset : Nat) :
    (store msgp offset bytes).isSome ↔ bytes = [] ∨ offset + bytes.length ≤ msgp.length := by
  by_cases h : bytes = [] ∨ offset + bytes.length ≤ msgp.length
  · rw [store, if_pos h]
    exact ⟨fun _ => h, fun _ => rfl⟩
  · rw [store, if_neg h]
    exact ⟨fun hnone => absurd hnone Bool.false_ne_true, fun hroom => absurd hroom h⟩

def readSize (pipe : Pipe) : Nat := word (pipe.delivered 4)

theorem piperead_four (pipe : Pipe) : (piperead pipe 4).1 = 4 ↔ (pipe.delivered 4).length = 4 := by
  have hle := length_delivered_le pipe 4
  unfold piperead
  cases hread : pipe.reads 0 with
  | none => simp [Pipe.delivered, hread]
  | some most =>
    dsimp only
    rw [int, if_pos (by omega)]
    omega

theorem msgrcv_isSome_iff (msgp : List UInt8) (pipe : Pipe) :
    (msgrcv msgp pipe).isSome ↔
      (pipe.delivered 4).length ≤ msgp.length ∧
        ((pipe.delivered 4).length = 4 → readSize pipe < 4 →
          4 + ((pipe.after 4).delivered (bodySize (readSize pipe))).length ≤ msgp.length) := by
  by_cases hheader : (pipe.delivered 4).length ≤ msgp.length
  · have hrun : msgrcv msgp pipe =
        if (piperead pipe 4).1 ≠ 4 then
          some (.pipeBroken, pipe.delivered 4 ++ msgp.drop (pipe.delivered 4).length, pipe.after 4)
        else msgrcvBody (pipe.delivered 4 ++ msgp.drop (pipe.delivered 4).length) (pipe.after 4) := by
      rw [msgrcv]
      dsimp only [piperead]
      rw [store_eq (by rwa [Nat.zero_add]), Option.bind_some, List.take_zero, List.nil_append, Nat.zero_add]
      rfl
    rw [hrun, and_iff_right hheader]
    by_cases hfour : (pipe.delivered 4).length = 4
    · have hlength : (pipe.delivered 4 ++ msgp.drop 4).length = msgp.length := by
        rw [List.length_append, hfour, List.length_drop]
        omega
      have htake : (pipe.delivered 4 ++ msgp.drop 4).take 4 = pipe.delivered 4 := by
        rw [List.take_append_of_le_length (by omega), List.take_of_length_le (by omega)]
      have hbody := length_delivered_le (pipe.after 4) (bodySize (readSize pipe))
      rw [if_neg (not_not.mpr ((piperead_four pipe).mpr hfour)), imp_iff_right hfour, hfour, msgrcvBody]
      dsimp only
      rw [htake, hlength]
      change (if msgp.length < readSize pipe then some _ else Option.map _ (store _ 4 ((pipe.after 4).delivered
        (bodySize (readSize pipe))))).isSome ↔ _
      by_cases hlarge : msgp.length < readSize pipe
      · rw [if_pos hlarge]
        exact ⟨fun _ h => absurd h (by omega), fun _ => rfl⟩
      · rw [if_neg hlarge, Option.isSome_map, store_isSome_iff, hlength]
        constructor
        · rintro (hnil | hfits) _
          · rw [hnil]
            simpa [hfour] using hheader
          · exact hfits
        · intro hfits
          by_cases hsmall : readSize pipe < 4
          · exact .inr (hfits hsmall)
          · have hle := bodySize_le (Nat.not_lt.mp hsmall)
            exact .inr (by omega)
    · rw [if_pos fun h => hfour ((piperead_four pipe).mp h)]
      exact ⟨fun _ h => absurd h hfour, fun _ => rfl⟩
  · rw [msgrcv]
    dsimp only [piperead]
    have hnone : store msgp 0 (pipe.delivered 4) = none := if_neg fun h => hheader (by
      rcases h with h | h
      · rw [h]
        exact Nat.zero_le _
      · omega)
    rw [hnone]
    exact ⟨fun h => absurd h Bool.false_ne_true, fun h => absurd h.1 hheader⟩

theorem rejected_aligned_iff (msgp : List UInt8) (pipe : Pipe) (m : Message) (rest : List UInt8)
    (hstream : pipe.stream = m.bytes ++ rest) :
    (∀ r, msgrcv msgp pipe = some r → r.1 = .tooSmall → r.2.2.stream = rest) ↔
      ¬ (Full (pipe.reads 0) 4 ∧ 4 ≤ msgp.length ∧ msgp.length < m.msgsz) := by
  constructor
  · rintro h ⟨hfull, hfour, hlarge⟩
    have hrun : msgrcv msgp pipe = some (.tooSmall, Bytes.bytes 4 m.msgsz ++ msgp.drop 4,
        ⟨m.payload ++ rest, fun i => pipe.reads (i + 1)⟩) := by
      rw [msgrcv_header hfull hstream hfour, msgrcvBody]
      dsimp only
      rw [take_header, word_header, length_header _ hfour, if_pos hlarge]
    have hlength := congrArg List.length (h _ hrun rfl)
    rw [List.length_append] at hlength
    rw [Message.msgsz] at hlarge
    omega
  · intro h r hr hsmall
    by_cases hlarge : msgp.length < m.msgsz
    · by_cases hfull : Full (pipe.reads 0) 4
      · have hread := piperead_full hfull (hstream.trans (List.append_assoc _ _ _)) (Bytes.length_bytes 4 m.msgsz)
        have hheader := congrArg (·.2.1.length) hread
        have hinside := ((msgrcv_isSome_iff msgp pipe).mp (Option.isSome_of_eq_some hr)).1
        dsimp only [piperead] at hheader
        rw [Bytes.length_bytes] at hheader
        exact absurd ⟨hfull, by omega, hlarge⟩ h
      · rw [msgrcv_broken hfull hr] at hsmall
        cases hsmall
    · have hroom := Nat.not_lt.mp hlarge
      by_cases hfull : Full (pipe.reads 0) 4 ∧ Full (pipe.reads 1) m.payload.length
      · rw [msgrcv_full hroom hfull.1 hfull.2 hstream] at hr
        cases hr
        cases hsmall
      · rw [msgrcv_short hroom hfull hstream hr] at hsmall
        cases hsmall

theorem msgflush_isSome_iff (results : Nat → Int) :
    (∃ n, (msgflush n results).isSome) ↔ ∃ i, results i = 0 := by
  constructor
  · rintro ⟨n, hn⟩
    induction n generalizing results with
    | zero => cases hn
    | succ n ih =>
      rw [msgflush] at hn
      by_cases hzero : results 0 = 0
      · exact ⟨0, hzero⟩
      · rw [if_pos hzero] at hn
        obtain ⟨i, hi⟩ := ih _ hn
        exact ⟨i + 1, hi⟩
  · rintro ⟨i, hi⟩
    refine ⟨i + 1, ?_⟩
    induction i generalizing results with
    | zero => rw [msgflush, if_neg (not_not.mpr hi), Option.isSome_some]
    | succ i ih =>
      rw [msgflush]
      split
      · exact ih _ hi
      · rfl

/-- What was sent comes back exactly if no read is short; the buffer is kept exactly if a size less than its own field
lets in no more than fits; the pipe is at the next message exactly if none was too large; and flushing ends exactly if
a read gives 0. -/
theorem dmn_messages (xs : List Exchange) (pipe : Pipe) (msgp : List UInt8) (m : Message) (rest : List UInt8)
    (results : Nat → Int) :
    (SameMessages xs ⟨sendAll [] xs, pipe.reads⟩ ↔ FullReads pipe.reads xs) ∧
    ((msgrcv msgp pipe).isSome ↔
      (pipe.delivered 4).length ≤ msgp.length ∧
        ((pipe.delivered 4).length = 4 → readSize pipe < 4 →
          4 + ((pipe.after 4).delivered (bodySize (readSize pipe))).length ≤ msgp.length)) ∧
    ((∀ r, msgrcv msgp ⟨m.bytes ++ rest, pipe.reads⟩ = some r → r.1 = .tooSmall → r.2.2.stream = rest) ↔
      ¬ (Full (pipe.reads 0) 4 ∧ 4 ≤ msgp.length ∧ msgp.length < m.msgsz)) ∧
    ((∃ n, (msgflush n results).isSome) ↔ ∃ i, results i = 0) := by
  refine ⟨?_, msgrcv_isSome_iff msgp pipe, rejected_aligned_iff msgp ⟨m.bytes ++ rest, pipe.reads⟩ m rest rfl,
    msgflush_isSome_iff results⟩
  rw [sendAll_eq, List.nil_append]
  exact sameMessages_iff xs pipe.reads

def large : Message := ⟨[1, 2, 3, 4], by decide⟩

/-- It is rejected, and the next call takes its payload for a size. -/
theorem rejected_message_left_in_pipe :
    (msgrcv (List.replicate 6 0) ⟨large.bytes ++ Message.bytes ⟨[], by decide⟩, fun _ => some 128⟩).map
      (fun r => (r.1.result, readSize r.2.2)) = some (-1, 0x04030201) := rfl

end Wt88047.DmnMessages
