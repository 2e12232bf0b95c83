import Mathlib.Algebra.Order.Ring.Nat
import Wt88047.Lib.Loop

/-! The superbuf queue of a channel: the buffers that its bundled streams deliver, grouped
by frame number, and the operations that take groups off the queue. -/

namespace Wt88047.Superbuf

inductive StreamType
  | default | preview | postview | snapshot | video | implDefined | yuv | metadata | raw | offlineProc
  deriving DecidableEq

inductive NotifyMode
  | burst | continuous
  deriving DecidableEq

inductive BracketingState
  | off | waitGoodFrameIdx | active
  deriving DecidableEq

structure CropInfo where
  streamId : Nat
  left : Int
  top : Int
  deriving DecidableEq

structure MetadataInfo where
  isFrameIdReset : Bool
  isMetaInvalid : Bool
  isCropValid : Bool
  cropInfo : List CropInfo
  isPrepSnapshotDoneValid : Bool
  needFutureFrame : Bool
  isGoodFrameIdxRangeValid : Bool
  minFrameIdx : Nat
  maxFrameIdx : Nat
  deriving DecidableEq

/-- `mm_camera_buf_def_t`; `metadata` is what `buffer` points at on a metadata stream. -/
structure BufDef where
  streamId : Nat
  streamType : StreamType
  bufIdx : Nat
  frameIdx : Nat
  metadata : Option MetadataInfo
  deriving DecidableEq

/-- `mm_camera_buf_info_t`; `buf` is `none` for a null pointer. -/
structure BufInfo where
  streamId : Nat
  frameIdx : Nat
  buf : Option BufDef
  deriving DecidableEq

def BufInfo.empty : BufInfo := ⟨0, 0, none⟩

def BufDef.info (b : BufDef) : BufInfo := ⟨b.streamId, b.frameIdx, some b⟩

/-- `mm_channel_queue_node_t`; `superBuf` holds its first `num_of_bufs` entries. -/
structure QueueNode where
  superBuf : List BufInfo
  matched : Bool
  frameIdx : Nat
  deriving DecidableEq

def QueueNode.numOfBufs (n : QueueNode) : Nat := n.superBuf.length

def QueueNode.heldBufs (n : QueueNode) : List BufDef := n.superBuf.filterMap (·.buf)

def QueueNode.framed (n : QueueNode) : List BufInfo := n.superBuf.filter (·.frameIdx != 0)

structure ChannelAttr where
  notifyMode : NotifyMode
  waterMark : Nat
  lookBack : Nat
  postFrameSkip : Nat
  maxUnmatchedFrames : Nat
  deriving DecidableEq

/-- `mm_channel_queue_t`: `que` and `size` are the `cam_queue_t` inside it. -/
structure ChannelQueue where
  que : List QueueNode
  size : Nat
  bundledStreams : List Nat
  attr : ChannelAttr
  expectedFrameId : Nat
  matchCnt : Nat
  expectedFrameIdWithoutLed : Nat
  deriving DecidableEq

def ChannelQueue.numStreams (q : ChannelQueue) : Nat := q.bundledStreams.length

/-- What the channel reads of one of its streams; `streamType` is `none` while
`stream_info` is null, `ownChannel` says that `ch_obj` is this channel. -/
structure Stream where
  used : Bool
  myHdl : Nat
  streamType : Option StreamType
  serverStreamId : Nat
  ownChannel : Bool
  deriving DecidableEq

structure SuperBuf where
  numBufs : Nat
  bufs : List (Option BufDef)
  deriving DecidableEq

def SuperBuf.heldBufs (sb : SuperBuf) : List BufDef := sb.bufs.reduceOption

def QueueNode.toSuperBuf (n : QueueNode) : SuperBuf := ⟨n.numOfBufs, n.superBuf.map (·.buf)⟩

structure Mem where
  newBuf : Bool
  newNode : Bool
  dispatch : List (Bool × Bool)
  deriving DecidableEq

inductive Mark
  | matched (frameIdx : Nat)
  | retarget
  | request (num : Nat)
  | countDown
  | dispatched (mode : NotifyMode)
  deriving DecidableEq

inductive ZslCall
  | start | stop
  deriving DecidableEq

structure Trace where
  delivered : List BufDef
  qbufs : List BufDef
  dropped : List BufDef
  released : List QueueNode
  cbQueue : List SuperBuf
  notified : List SuperBuf
  lost : List SuperBuf
  history : List Mark
  zslCalls : List ZslCall
  deriving DecidableEq

def Trace.empty : Trace := ⟨[], [], [], [], [], [], [], [], []⟩

/-- The part of `mm_channel_t` that the channel thread works on. -/
structure Channel where
  queue : ChannelQueue
  superBufNotifyCb : Bool
  streams : List Stream
  pendingCnt : Nat
  manualZSLSnapshot : Bool
  startZSlSnapshotCalled : Bool
  needLEDFlash : Bool
  previewSkipCnt : Nat
  bracketingState : BracketingState
  isFlashBracketingEnabled : Bool
  isZoom1xFrameRequested : Bool
  mem : Mem
  trace : Trace
  deriving DecidableEq

/-- `x--` on a 32-bit unsigned counter. Counting up never wraps: each unit stands for a
live heap block. -/
def decr (x : Nat) : Nat := if x = 0 then 2 ^ 32 - 1 else x - 1

@[simp] theorem decr_succ (n : Nat) : decr (n + 1) = n := by simp [decr]

theorem decr_of_pos {n : Nat} (h : 0 < n) : decr n = n - 1 := by simp [decr, Nat.ne_of_gt h]

/-- `mm_channel_qbuf` on a list of buffers; a null pointer among them is dereferenced. -/
def qbufAll : Channel → List (Option BufDef) → Option Channel
  | ch, [] => some ch
  | ch, some b :: bs => qbufAll { ch with trace.qbufs := ch.trace.qbufs ++ [b] } bs
  | _, none :: _ => none

theorem qbufAll_some (ch : Channel) (bs : List BufDef) :
    qbufAll ch (bs.map some) = some { ch with trace.qbufs := ch.trace.qbufs ++ bs } := by
  induction bs generalizing ch with
  | nil => simp [qbufAll]
  | cons b bs ih => simp [qbufAll, ih]

def superbufDequeueInternal (q : ChannelQueue) (matchedOnly : Bool) : Option QueueNode × ChannelQueue :=
  match q.que with
  | [] => (none, q)
  | n :: rest =>
    if matchedOnly && !n.matched then (none, q)
    else (some n, { q with
      que := rest
      size := decr q.size
      matchCnt := if n.matched then decr q.matchCnt else q.matchCnt })

def superbufDequeue (q : ChannelQueue) : Option QueueNode × ChannelQueue :=
  superbufDequeueInternal q true

/-- One turn of `while (queue->match_cnt > limit)`: nothing changes when no node comes off. -/
def releaseTurn (limit : Nat) (ch : Channel) : Option Channel :=
  if limit < ch.queue.matchCnt then
    match superbufDequeueInternal ch.queue true with
    | (some n, q) => some { ch with queue := q, trace.qbufs := ch.trace.qbufs ++ n.heldBufs }
    | (none, q) => some { ch with queue := q }
  else none

def releaseAbove (limit : Nat) (ch : Channel) : Option Channel :=
  if ch.queue.attr.notifyMode = .continuous then some ch
  else Loop.run (releaseTurn limit) ch.queue.que.length ch

def superbufBufdoneOverflow (ch : Channel) : Option Channel :=
  releaseAbove ch.queue.attr.waterMark ch

def superbufSkip (ch : Channel) : Option Channel :=
  releaseAbove ch.queue.attr.lookBack ch

/-- One turn of the flush loops: the buffers of the next node that `back` selects return to
their streams, the others leave the queue with nobody told. -/
def drainTurn (matchedOnly : Bool) (back : BufDef → Bool) (ch : Channel) : Option Channel :=
  match superbufDequeueInternal ch.queue matchedOnly with
  | (some n, q) => some { ch with
      queue := q
      trace.qbufs := ch.trace.qbufs ++ n.heldBufs.filter back
      trace.dropped := ch.trace.dropped ++ n.heldBufs.filter (!back ·) }
  | (none, _) => none

def drain (matchedOnly : Bool) (back : BufDef → Bool) (ch : Channel) : Option Channel :=
  Loop.run (drainTurn matchedOnly back) ch.queue.que.length ch

def superbufFlush (camType : StreamType) (ch : Channel) : Option Channel :=
  drain false (fun b => camType == .default || camType == b.streamType) ch

def superbufFlushMatched (ch : Channel) : Option Channel :=
  drain true (fun _ => true) ch

end Wt88047.Superbuf
