import Wt88047.MmCamera.Superbuf

/-! The command thread of a channel: matching of delivered buffers into superbufs, the
metadata that steers it, and the commands of `mm_channel_process_stream_buf`.
A null dereference or a loop that does not end gives `none`. -/

namespace Wt88047.Superbuf

def maxFutureFrameOffset : Nat := 100

def postFlashPreviewSkipCnt : Nat := 3

def Channel.retarget (ch : Channel) (id idWithoutLed : Nat) : Channel :=
  { ch with
    queue.expectedFrameId := id
    queue.expectedFrameIdWithoutLed := idWithoutLed
    trace.history := ch.trace.history ++ [.retarget] }

def Channel.expect (ch : Channel) (id : Nat) : Channel :=
  ch.retarget id ch.queue.expectedFrameIdWithoutLed

def Channel.expectFuture (ch : Channel) : Channel :=
  ch.expect ((ch.queue.expectedFrameId + maxFutureFrameOffset) % 2 ^ 32)

def utilGetStreamByHandler (ch : Channel) (handler : Nat) : Option Stream :=
  ch.streams.find? fun s => s.used && handler == s.myHdl

/-- The search reads `stream_info` of every entry it passes, used or not. -/
def snapshotStreamId : List Stream → Option Nat
  | [] => some 0
  | s :: rest => match s.streamType with
    | none => none
    | some t => if t = .snapshot then some s.serverStreamId else snapshotStreamId rest

def isCrop1xFound (m : MetadataInfo) (snapshotId : Nat) : Bool :=
  m.isCropValid && m.cropInfo.any fun c => snapshotId == c.streamId && c.left == 0 && c.top == 0

def handleFrameIdReset (m : MetadataInfo) (ch : Channel) : Option Channel :=
  if m.isFrameIdReset then (superbufFlush .default ch).map fun ch => ch.expect 1 else some ch

def handleZoom1x (crop1xFound : Bool) (frameIdx : Nat) (ch : Channel) : Option Channel :=
  if crop1xFound then
    some ({ ch with isZoom1xFrameRequested := false }.expect ((frameIdx + 1) % 2 ^ 32))
  else superbufFlushMatched ch.expectFuture

def handlePrepSnapshot (m : MetadataInfo) (ch : Channel) : Option Channel :=
  if m.isPrepSnapshotDoneValid then
    if m.needFutureFrame then
      (superbufFlush .default ch.expectFuture).map fun ch => { ch with needLEDFlash := true }
    else some { ch with needLEDFlash := false }
  else if m.isGoodFrameIdxRangeValid then some (ch.expect m.minFrameIdx)
  else if ch.bracketingState = .waitGoodFrameIdx then
    (superbufFlushMatched ch).map Channel.expectFuture
  else some ch

def handleGoodFrameRange (m : MetadataInfo) (ch : Channel) : Channel :=
  if ch.isFlashBracketingEnabled && m.isGoodFrameIdxRangeValid then
    ch.retarget m.minFrameIdx m.maxFrameIdx
  else if m.isGoodFrameIdxRangeValid then
    { ch.expect m.minFrameIdx with bracketingState := .active }
  else ch

/-- The part of `mm_channel_handle_metadata` for a metadata stream of the channel itself. -/
def handleOwnMetadata (m : MetadataInfo) (frameIdx : Nat) (ch : Channel) : Option (Int × Channel) :=
  (snapshotStreamId ch.streams).bind fun snapshotId =>
    if m.isPrepSnapshotDoneValid && m.isGoodFrameIdxRangeValid then some (-1, ch)
    else if ch.isZoom1xFrameRequested then
      (handleZoom1x (isCrop1xFound m snapshotId) frameIdx ch).map fun ch => (0, ch)
    else (handlePrepSnapshot m ch).map fun ch => (0, handleGoodFrameRange m ch)

def handleMetadata (ch : Channel) (info : BufInfo) : Option (Int × Channel) :=
  match utilGetStreamByHandler ch info.streamId with
  | none => some (-1, ch)
  | some s => match s.streamType with
    | none => some (-1, ch)
    | some t =>
      if t ≠ .metadata then some (0, ch)
      else info.buf.bind fun b => match b.metadata with
        | none => some (-1, ch)
        | some m => (handleFrameIdReset m ch).bind fun ch =>
          if m.isMetaInvalid then some (-1, ch)
          else if s.ownChannel then handleOwnMetadata m info.frameIdx ch
          else some (0, ch)

structure Scan where
  found : Option (Nat × QueueNode)
  unmatchedBundles : Nat
  lastBuf : Option Nat
  insertBeforeBuf : Option Nat
  deriving DecidableEq

def scanQueue (frameIdx : Nat) : List QueueNode → Nat → Scan → Scan
  | [], _, r => r
  | n :: rest, pos, r =>
    if n.matched then scanQueue frameIdx rest (pos + 1) r
    else if frameIdx = n.frameIdx then { r with found := some (pos, n) }
    else scanQueue frameIdx rest (pos + 1)
      { r with
        unmatchedBundles := (r.unmatchedBundles + 1) % 2 ^ 8
        lastBuf := if r.lastBuf = none ∧ n.frameIdx < frameIdx then some pos else r.lastBuf
        insertBeforeBuf :=
          if r.insertBeforeBuf = none ∧ frameIdx < n.frameIdx then some pos else r.insertBeforeBuf }

/-- Return the filled slots of the node at position `i`, unlink and free it. -/
def releaseAt (i : Nat) (ch : Channel) : Option Channel :=
  ch.queue.que[i]?.bind fun n => (qbufAll ch (n.framed.map (·.buf))).map fun ch => { ch with
    queue.que := ch.queue.que.eraseIdx i
    queue.size := decr ch.queue.size
    trace.released := ch.trace.released ++ [n] }

/-- Release the node at position `i` once for every node from there up to the stop. -/
def releaseRange (i : Nat) : Nat → Channel → Option Channel
  | 0, ch => some ch
  | k + 1, ch => (releaseAt i ch).bind (releaseRange i k)

def releaseOlder (lastBuf : Option Nat) (pos : Nat) (ch : Channel) : Option Channel :=
  match lastBuf with
  | none => some ch
  | some i => releaseRange i (pos - i) ch

def countMatch (frameIdx : Nat) (ch : Channel) : Channel := { ch with
  queue.expectedFrameId :=
    if ch.isFlashBracketingEnabled then ch.queue.expectedFrameIdWithoutLed
    else (frameIdx + ch.queue.attr.postFrameSkip) % 2 ^ 32
  queue.matchCnt := ch.queue.matchCnt + 1
  isFlashBracketingEnabled := false
  trace.history := ch.trace.history ++
    .matched frameIdx :: if ch.isFlashBracketingEnabled then [.retarget] else [] }

def QueueNode.fill (n : QueueNode) (slot : Nat) (info : BufInfo) : QueueNode :=
  { n with
    superBuf := n.superBuf.set slot info
    matched := (n.superBuf.set slot info).all (·.frameIdx != 0) }

/-- The branch of a buffer whose superbuf is already in the queue, at `pos`. -/
def fillNode (slot pos : Nat) (n : QueueNode) (lastBuf : Option Nat) (info : BufInfo)
    (ch : Channel) : Option Channel :=
  let ch := { ch with queue.que := ch.queue.que.set pos (n.fill slot info) }
  if (n.fill slot info).matched then releaseOlder lastBuf pos (countMatch info.frameIdx ch)
  else some ch

def evictOldest (scan : Scan) (ch : Channel) : Option Channel :=
  if ch.queue.attr.maxUnmatchedFrames < scan.unmatchedBundles then
    scan.lastBuf.bind fun i => releaseAt i ch
  else some ch

def insertPosition (scan : Scan) (ch : Channel) (len : Nat) : Nat :=
  match scan.insertBeforeBuf with
  | none => len
  | some p =>
    if ch.queue.attr.maxUnmatchedFrames < scan.unmatchedBundles ∧ scan.lastBuf.any (· < p) then p - 1
    else p

def newNode (q : ChannelQueue) (slot : Nat) (info : BufInfo) : QueueNode :=
  { superBuf := (List.replicate q.numStreams BufInfo.empty).set slot info
    matched := q.numStreams == 1
    frameIdx := info.frameIdx }

/-- A single-stream superbuf is complete at once; this path does not look at the flash
bracketing flag. -/
def countSingle (frameIdx : Nat) (ch : Channel) : Channel :=
  if ch.queue.numStreams = 1 then { ch with
    queue.expectedFrameId := (frameIdx + ch.queue.attr.postFrameSkip) % 2 ^ 32
    queue.matchCnt := ch.queue.matchCnt + 1
    trace.history := ch.trace.history ++ [.matched frameIdx] }
  else ch

def enqueueNew (slot : Nat) (scan : Scan) (info : BufInfo) (ch : Channel) : Option Channel :=
  if ch.queue.attr.maxUnmatchedFrames < scan.unmatchedBundles ∧ scan.lastBuf = none then
    qbufAll ch [info.buf]
  else (evictOldest scan ch).bind fun ch =>
    if ch.mem.newBuf && ch.mem.newNode then
      let pos := insertPosition scan ch ch.queue.que.length
      some (countSingle info.frameIdx { ch with
        queue.que := ch.queue.que.insertIdx pos (newNode ch.queue slot info)
        queue.size := ch.queue.size + 1 })
    else qbufAll ch [info.buf]

def compAndEnqueueLocked (slot : Nat) (info : BufInfo) (ch : Channel) : Option Channel :=
  let scan := scanQueue info.frameIdx ch.queue.que 0 ⟨none, 0, none, none⟩
  match scan.found with
  | some (pos, n) => fillNode slot pos n scan.lastBuf info ch
  | none => enqueueNew slot scan info ch

def superbufCompAndEnqueue (ch : Channel) (info : BufInfo) : Option Channel :=
  let slot := ch.queue.bundledStreams.idxOf info.streamId
  if slot = ch.queue.numStreams then some ch
  else (handleMetadata ch info).bind fun (rc, ch) =>
    if rc < 0 then qbufAll ch [info.buf]
    else if info.frameIdx < ch.queue.expectedFrameId then qbufAll ch [info.buf]
    else compAndEnqueueLocked slot info ch

inductive GenericCmdType
  | aeBracketing | afBracketing | flashBracketing | mtfBracketing | zoom1x
  deriving DecidableEq

inductive Cmd
  | dataCb (buf : BufDef)
  | reqDataCb (numBufRequested : Nat)
  | startZsl
  | stopZsl
  | configNotify (mode : NotifyMode)
  | flushQueue (frameIdx : Nat) (streamType : StreamType)
  | general (type : GenericCmdType) (start : Bool)
  deriving DecidableEq

def reqDataCb (num : Nat) (ch : Channel) : Option Channel :=
  (superbufSkip { ch with
    pendingCnt := num
    trace.history := ch.trace.history ++ [.request num] }).map fun ch =>
    if 0 < ch.pendingCnt ∧ (ch.needLEDFlash ∨ ch.bracketingState ≠ .off)
        ∧ ¬ ch.manualZSLSnapshot ∧ ¬ ch.startZSlSnapshotCalled then
      { ch with
        startZSlSnapshotCalled := true
        needLEDFlash := false
        previewSkipCnt := 0
        trace.zslCalls := ch.trace.zslCalls ++ [.start] }
    else if (ch.pendingCnt = 0 ∧ ch.startZSlSnapshotCalled) ∧ ¬ ch.manualZSLSnapshot then
      { ch with
        startZSlSnapshotCalled := false
        needLEDFlash := false
        bracketingState := .off
        trace.zslCalls := ch.trace.zslCalls ++ [.stop] }
    else ch

def generalCmd (type : GenericCmdType) (start : Bool) (ch : Channel) : Option Channel :=
  match type with
  | .aeBracketing | .afBracketing | .mtfBracketing =>
    (superbufFlush .default ch).map fun ch =>
      { ch with bracketingState := if start then .waitGoodFrameIdx else .off }
  | .flashBracketing => some { ch with isFlashBracketingEnabled := start }
  | .zoom1x => some { ch with isZoom1xFrameRequested := start }

def countDown (mode : NotifyMode) (ch : Channel) : Channel :=
  if mode = .burst then
    let ch := { ch with
      pendingCnt := decr ch.pendingCnt
      trace.history := ch.trace.history ++ [.countDown] }
    if (ch.pendingCnt = 0 ∧ ch.startZSlSnapshotCalled) ∧ ¬ ch.manualZSLSnapshot then
      { ch with
        previewSkipCnt := postFlashPreviewSkipCnt
        startZSlSnapshotCalled := false
        trace.zslCalls := ch.trace.zslCalls ++ [.stop] }
    else ch
  else ch

/-- Send a superbuf to the callback thread. The result of `cam_queue_enq` is not looked at. -/
def dispatchSuperbuf (mode : NotifyMode) (n : QueueNode) (ch : Channel) : Option Channel :=
  if ch.superBufNotifyCb then
    let alloc := ch.mem.dispatch.head?.getD (true, true)
    let ch := { ch with mem.dispatch := ch.mem.dispatch.tail }
    if alloc.1 then
      if alloc.2 then some { ch with
        trace.cbQueue := ch.trace.cbQueue ++ [n.toSuperBuf]
        trace.history := ch.trace.history ++ [.dispatched mode] }
      else some { ch with trace.lost := ch.trace.lost ++ [n.toSuperBuf] }
    else qbufAll ch (n.superBuf.map (·.buf))
  else qbufAll ch (n.superBuf.map (·.buf))

/-- What one turn of the dispatch loop does, `none` when the loop is left. The inner option
is a null dereference. -/
def dispatchTurn (mode : NotifyMode) (ch : Channel) : Option (Option Channel) :=
  if 0 < ch.pendingCnt ∨ mode = .continuous then
    match superbufDequeue ch.queue with
    | (some n, q) => some (dispatchSuperbuf mode n (countDown mode { ch with queue := q }))
    | (none, _) => none
  else none

def dispatchLoop (mode : NotifyMode) (ch : Channel) : Option Channel :=
  (Loop.run (fun c => c.bind (dispatchTurn mode)) ch.queue.que.length (some ch)).join

def runCmd (cmd : Cmd) (ch : Channel) : Option Channel :=
  match cmd with
  | .dataCb b =>
    superbufCompAndEnqueue { ch with trace.delivered := ch.trace.delivered ++ [b] } b.info
  | .reqDataCb num => reqDataCb num ch
  | .startZsl => some { ch with
      manualZSLSnapshot := true, trace.zslCalls := ch.trace.zslCalls ++ [.start] }
  | .stopZsl => some { ch with
      manualZSLSnapshot := false, trace.zslCalls := ch.trace.zslCalls ++ [.stop] }
  | .configNotify mode => some { ch with queue.attr.notifyMode := mode }
  | .flushQueue frameIdx streamType => superbufFlush streamType (ch.expect frameIdx)
  | .general type start => generalCmd type start ch

def processStreamBuf (cmd : Cmd) (ch : Channel) : Option Channel :=
  (runCmd cmd ch).bind fun ch =>
    match cmd with
    | .flushQueue _ _ => some ch
    | _ => (superbufBufdoneOverflow ch).bind (dispatchLoop ch.queue.attr.notifyMode)

end Wt88047.Superbuf
