import Wt88047.Lib.Tally
import Wt88047.MmCamera.ChannelDelete

/-! Channels and streams by their handles: the slots of a camera object, the calls that fill and clear
them, and beside them a record of what exists, which is made from the calls and their answers
alone. -/

namespace Wt88047.Handles

/-- A `mm_stream_t`. `chObj` is the slot of the channel the stream was added to, also in the copies
that stand for it in other channels; `born` numbers the streams. -/
structure StreamObj where
  myHdl : Nat := 0
  state : Stream.StreamState := .notUsed
  chObj : Nat := 0
  born : Nat := 0
  deriving DecidableEq

def StreamObj.release (s : StreamObj) : Int × StreamObj :=
  match s.state with
  | .notUsed => (-1, s)
  | .acquired | .cfg => (0, {})
  | .inited | .buffed | .reg | .active => (0, s)

def StreamObj.handles (s : StreamObj) : List Nat := if s.state = .notUsed then [] else [s.myHdl]

structure ChannelObj where
  myHdl : Nat := 0
  state : Channel.State := .notused
  streams : Nat → StreamObj := fun _ => {}
  born : Nat := 0

def channelMax : Nat := 16
def maxStreamNumInBundle : Nat := 4

namespace ChannelObj

def getStreamByHandler (c : ChannelObj) (handler : Nat) : Option Nat :=
  (List.range maxStreamNumInBundle).find? fun j =>
    (c.streams j).state ≠ .notUsed ∧ handler = (c.streams j).myHdl

def freeStream (c : ChannelObj) : Option Nat :=
  (List.range maxStreamNumInBundle).find? fun j => (c.streams j).state = .notUsed

def setStream (c : ChannelObj) (j : Nat) (s : StreamObj) : ChannelObj :=
  { c with streams := fun l => if l = j then s else c.streams l }

def handles (c : ChannelObj) : List Nat :=
  (List.range maxStreamNumInBundle).flatMap fun j => (c.streams j).handles

end ChannelObj

/-- A camera object. `history` is `g_handler_history_count`, and `made` is how many handles were ever
drawn from it. The record: `channels` are the channels that exist, with the numbers of their
handles, `members` the handles under which a channel has a stream or a link, each with the handle of
the channel, and `issued` all channel handles ever given out. -/
structure World where
  history : Nat := 0
  ch : Nat → ChannelObj := fun _ => {}
  made : Nat := 0
  channels : List (Nat × Nat) := []
  members : List (Nat × Nat) := []
  issued : List (Nat × Nat) := []

namespace World

def setCh (w : World) (i : Nat) (c : ChannelObj) : World :=
  { w with ch := fun k => if k = i then c else w.ch k }

def draw (w : World) : World :=
  { w with history := Camera.nextHistory w.history, made := w.made + 1 }

def getChannelByHandler (w : World) (handler : Nat) : Option Nat :=
  (List.range channelMax).find? fun i => handler = (w.ch i).myHdl

def freeChannel (w : World) : Option Nat :=
  (List.range channelMax).find? fun i => (w.ch i).state = .notused

def addChannel (w : World) : Nat × World :=
  match w.freeChannel with
  | none => (0, w)
  | some i =>
    let handle := (Camera.generateHandler i w.history).1
    (handle, w.draw.setCh i { myHdl := handle, state := .stopped, born := w.made })

def delChannel (chId : Nat) (w : World) : Int × World :=
  match w.getChannelByHandler chId with
  | none => (-1, w)
  | some i => (if (w.ch i).state = .notused then -1 else 0, w.setCh i {})

def channelAddStream (i : Nat) (acquired : Bool) (w : World) : Nat × World :=
  match (w.ch i).freeStream with
  | none => (0, w)
  | some j =>
    let handle := (Camera.generateHandler j w.history).1
    if acquired then
      (handle, w.draw.setCh i ((w.ch i).setStream j
        { myHdl := handle, state := .acquired, chObj := i, born := w.made }))
    else (0, w.draw.setCh i ((w.ch i).setStream j {}))

def addStream (chId : Nat) (acquired : Bool) (w : World) : Nat × World :=
  match w.getChannelByHandler chId with
  | none => (0, w)
  | some i => if (w.ch i).state = .stopped then channelAddStream i acquired w else (0, w)

def channelLinkStream (i owner streamId : Nat) (w : World) : Nat × World :=
  match (w.ch owner).getStreamByHandler streamId with
  | none => (0, w)
  | some l =>
    match (w.ch i).freeStream with
    | none => (0, w)
    | some j =>
      (((w.ch owner).streams l).myHdl,
        w.setCh i ((w.ch i).setStream j ((w.ch owner).streams l)))

/-- The stream of channel `chId` is linked into channel `linkedChId`. -/
def linkStream (chId streamId linkedChId : Nat) (w : World) : Nat × World :=
  match w.getChannelByHandler linkedChId, w.getChannelByHandler chId with
  | some i, some owner =>
    if (w.ch i).state = .stopped then channelLinkStream i owner streamId w else (0, w)
  | _, _ => (0, w)

def channelDelStream (i streamId : Nat) (w : World) : Int × World :=
  match (w.ch i).getStreamByHandler streamId with
  | none => (-1, w)
  | some j =>
    if ((w.ch i).streams j).chObj ≠ i then (0, w.setCh i ((w.ch i).setStream j {}))
    else
      (((w.ch i).streams j).release.1,
        w.setCh i ((w.ch i).setStream j ((w.ch i).streams j).release.2))

def delStream (chId streamId : Nat) (w : World) : Int × World :=
  match w.getChannelByHandler chId with
  | none => (-1, w)
  | some i =>
    match (w.ch i).state with
    | .notused => (-1, w)
    | .stopped => channelDelStream i streamId w
    | .active | .paused => (0, w)

/-! The record. -/

def noteChannel (number handle : Nat) (w : World) : World :=
  if handle = 0 then w
  else { w with channels := (number, handle) :: w.channels, issued := (number, handle) :: w.issued }

def noteMember (chId handle : Nat) (w : World) : World :=
  if handle = 0 then w else { w with members := (chId, handle) :: w.members }

def dropChannel (chId : Nat) (rc : Int) (w : World) : World :=
  if rc = 0 then
    { w with channels := w.channels.filter fun p => p.2 ≠ chId
             members := w.members.filter fun p => p.1 ≠ chId }
  else w

def dropMember (chId handle : Nat) (rc : Int) (w : World) : World :=
  if rc = 0 then { w with members := w.members.erase (chId, handle) } else w

def ChannelLive (w : World) (handle : Nat) : Prop := ∃ p ∈ w.channels, p.2 = handle

instance (w : World) (handle : Nat) : Decidable (w.ChannelLive handle) :=
  inferInstanceAs (Decidable (∃ p ∈ w.channels, p.2 = handle))

def Present (w : World) (s : StreamObj) : Prop :=
  ∃ l < maxStreamNumInBundle, ((w.ch s.chObj).streams l).state ≠ .notUsed ∧
    ((w.ch s.chObj).streams l).chObj = s.chObj ∧ ((w.ch s.chObj).streams l).born = s.born

end World

inductive Op
  | addChannel
  | delChannel (chId : Nat)
  | addStream (chId : Nat) (acquired : Bool)
  | linkStream (chId streamId linkedChId : Nat)
  | delStream (chId streamId : Nat)
  | draw
  deriving DecidableEq

def step (w : World) : Op → Option World
  | .addChannel => some (w.addChannel.2.noteChannel w.made w.addChannel.1)
  | .delChannel chId => some ((w.delChannel chId).2.dropChannel chId (w.delChannel chId).1)
  | .addStream chId acquired =>
    some ((w.addStream chId acquired).2.noteMember chId (w.addStream chId acquired).1)
  | .linkStream chId streamId linkedChId =>
    some ((w.linkStream chId streamId linkedChId).2.noteMember linkedChId
      (w.linkStream chId streamId linkedChId).1)
  | .delStream chId streamId =>
    some ((w.delStream chId streamId).2.dropMember chId streamId (w.delStream chId streamId).1)
  | .draw => some w.draw

/-- No stream goes away, by itself or with its channel, while another slot stands for it. -/
def Unlinked (w : World) : Op → Prop
  | .delChannel chId => ∀ i ∈ w.getChannelByHandler chId, ∀ k < channelMax, k ≠ i →
      ∀ l < maxStreamNumInBundle, ((w.ch k).streams l).state ≠ .notUsed →
        ((w.ch k).streams l).chObj ≠ i
  | .delStream chId streamId => ∀ i ∈ w.getChannelByHandler chId,
      ∀ j ∈ (w.ch i).getStreamByHandler streamId, ((w.ch i).streams j).chObj = i →
        ∀ k < channelMax, ∀ l < maxStreamNumInBundle, (k, l) ≠ (i, j) →
          ((w.ch k).streams l).state ≠ .notUsed →
            ((w.ch k).streams l).born ≠ ((w.ch i).streams j).born
  | _ => True

instance (w : World) (op : Op) : Decidable (Unlinked w op) :=
  match op with
  | .delChannel chId => inferInstanceAs (Decidable (∀ i ∈ w.getChannelByHandler chId,
      ∀ k < channelMax, k ≠ i → ∀ l < maxStreamNumInBundle,
        ((w.ch k).streams l).state ≠ .notUsed → ((w.ch k).streams l).chObj ≠ i))
  | .delStream chId streamId => inferInstanceAs (Decidable (∀ i ∈ w.getChannelByHandler chId,
      ∀ j ∈ (w.ch i).getStreamByHandler streamId, ((w.ch i).streams j).chObj = i →
        ∀ k < channelMax, ∀ l < maxStreamNumInBundle, (k, l) ≠ (i, j) →
          ((w.ch k).streams l).state ≠ .notUsed →
            ((w.ch k).streams l).born ≠ ((w.ch i).streams j).born))
  | .addChannel | .addStream _ _ | .linkStream _ _ _ | .draw => isTrue trivial

/-! The other calls. What they do on an object that they find in use is not looked at: `ran` is
their answer and the state they leave. -/

inductive ChannelCall
  | getBundleInfo
  | startChannel
  | stopChannel
  | requestSuperBuf
  | cancelSuperBufRequest
  | flushSuperBufQueue
  | startZslSnapshot
  | stopZslSnapshot
  | configChannelNotify
  | advancedCapture
  deriving DecidableEq

def ChannelCall.notFound : ChannelCall → Int
  | .stopChannel => 0
  | _ => -1

def callChannel (k : ChannelCall) (chId : Nat) (ran : Int × World) (w : World) : Int × World :=
  match w.getChannelByHandler chId with
  | none => (k.notFound, w)
  | some i => if (w.ch i).state = .notused then (-1, w) else ran

inductive StreamCall
  | qbuf
  | getQueuedBufCount
  | configStream
  | setStreamParms
  | getStreamParms
  | doStreamAction
  | mapStreamBuf
  | unmapStreamBuf
  deriving DecidableEq

/-- The event of the call looks for its stream when the channel is active. `offline` tells that a
buffer to be mapped or unmapped is of an offline type. -/
def StreamCall.inActive (offline : Bool) : StreamCall → Bool
  | .qbuf | .getQueuedBufCount | .setStreamParms | .getStreamParms | .doStreamAction => true
  | .configStream => false
  | .mapStreamBuf | .unmapStreamBuf => offline

def callStream (k : StreamCall) (offline : Bool) (chId streamId : Nat) (ran : Int × World)
    (w : World) : Int × World :=
  match w.getChannelByHandler chId with
  | none => (-1, w)
  | some i =>
    let answer := if ((w.ch i).getStreamByHandler streamId).isSome then ran else (-1, w)
    if k = .qbuf then answer
    else
      match (w.ch i).state with
      | .notused => (-1, w)
      | .stopped => answer
      | .active => if k.inActive offline then answer else (0, w)
      | .paused => (0, w)

inductive Probe
  | channel (handle : Nat)
  | stream (chId handle : Nat)
  | callChannel (k : ChannelCall) (chId : Nat) (ran : Int × World)
  | callStream (k : StreamCall) (offline : Bool) (chId streamId : Nat) (ran : Int × World)
  | delChannel (chId : Nat)
  | addStream (chId : Nat) (acquired : Bool)
  | linkStream (chId streamId linkedChId : Nat)
  | delStream (chId streamId : Nat)

/-- A lookup finds something exactly for the handles of what exists, and never for a stale channel
handle, that is one whose channel is gone and after which fewer than 65535 handles were drawn. A
call with a handle of nothing that exists answers its failure value and changes nothing. -/
def Honest (w : World) : Probe → Prop
  | .channel handle =>
    ((w.getChannelByHandler handle).isSome ↔ handle ≠ 0 ∧ w.ChannelLive handle) ∧
      ∀ n, (n, handle) ∈ w.issued → (n, handle) ∉ w.channels → w.made - (n + 1) < 65535 →
        w.getChannelByHandler handle = none
  | .stream chId handle => w.ChannelLive chId → ∀ i ∈ w.getChannelByHandler chId,
      (((w.ch i).getStreamByHandler handle).isSome ↔ handle ≠ 0 ∧ (chId, handle) ∈ w.members) ∧
        ∀ j ∈ (w.ch i).getStreamByHandler handle, w.Present ((w.ch i).streams j)
  | .callChannel k chId ran => ¬ w.ChannelLive chId → callChannel k chId ran w = (-1, w)
  | .callStream k offline chId streamId ran => ¬ (w.ChannelLive chId ∧ (chId, streamId) ∈ w.members) →
      callStream k offline chId streamId ran w = (-1, w)
  | .delChannel chId => ¬ w.ChannelLive chId → w.delChannel chId = (-1, w)
  | .addStream chId acquired => ¬ w.ChannelLive chId → w.addStream chId acquired = (0, w)
  | .linkStream chId streamId linkedChId =>
      ¬ (w.ChannelLive linkedChId ∧ w.ChannelLive chId ∧ (chId, streamId) ∈ w.members) →
        w.linkStream chId streamId linkedChId = (0, w)
  | .delStream chId streamId => ¬ (w.ChannelLive chId ∧ (chId, streamId) ∈ w.members) →
      w.delStream chId streamId = (-1, w)

/-- The handle 0 is not looked up while a channel slot is free, and a stop is not called with a
handle that is neither that of a channel nor, with a slot free, 0. -/
def Answerable (w : World) : Probe → Prop
  | .channel handle => handle = 0 → ∀ i < channelMax, (w.ch i).state ≠ .notused
  | .callChannel k chId _ => k = .stopChannel →
      w.ChannelLive chId ∨ chId = 0 ∧ ∃ i < channelMax, (w.ch i).state = .notused
  | _ => True

end Wt88047.Handles
