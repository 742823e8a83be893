import MoqQuic.Quic.FlowControl
import MoqQuic.Quic.StreamFrame

/-!
# MoqQuic.Quic.SendStream

The sending side of a stream: `send_stream.go`.

Each definition is what happens under the mutex of the stream. A `Write` that has to wait gives
the mutex up, so it is cut at the wait: `write` runs up to it, and `writeRound` is one round of
the loop afterwards. That `onStreamCompleted` is called is part of the results; the other
notifications of the sender only decide when the stream is asked again.

The source tells no data for writing (`nil`) from empty data, but never has the latter. Readings
of the clock are arguments: whether the deadline has passed.
-/

namespace MoqQuic.Quic

open Parse

structure StreamError where
  streamID : Nat
  errorCode : Nat
  remote : Bool
  deriving DecidableEq, Repr

/-- A RESET_STREAM frame, or a RESET_STREAM_AT frame if the reliable size is positive. -/
structure ResetStreamFrame where
  streamID : Nat
  errorCode : Nat
  finalSize : Nat
  reliableSize : Nat := 0
  deriving DecidableEq, Repr

structure StreamDataBlockedFrame where
  streamID : Nat
  maximumStreamData : Nat
  deriving DecidableEq, Repr

inductive WriteError where
  | reset (err : StreamError)
  | shutdown
  | writeOnClosedStream (streamID : Nat)
  | deadline
  deriving DecidableEq, Repr

structure SendStream where
  numOutstandingFrames : Int := 0
  retransmissionQueue : List StreamFrame := []
  streamID : Nat
  reliableSize : Nat := 0
  writeOffset : Nat := 0
  /-- an error was set -/
  shutdownErr : Bool := false
  resetErr : Option StreamError := none
  queuedResetStreamFrame : Option ResetStreamFrame := none
  supportsResetStreamAt : Bool
  finishedWriting : Bool := false
  finSent : Bool := false
  cancellationFlagged : Bool := false
  completed : Bool := false
  dataForWriting : Bytes := []
  nextFrame : Option StreamFrame := none
  /-- there is a signal in `writeChan` -/
  writeSignal : Bool := false
  flowController : StreamFlow
  deriving DecidableEq, Repr

def newSendStream (streamID : Nat) (flowController : StreamFlow) (supportsResetStreamAt : Bool) :
    SendStream where
  streamID := streamID
  flowController := flowController
  supportsResetStreamAt := supportsResetStreamAt

namespace SendStream

def signalWrite (s : SendStream) : SendStream := { s with writeSignal := true }

def reliableOffset (s : SendStream) : Nat := if s.supportsResetStreamAt then s.reliableSize else 0

/-- The length of the frame that is buffered. -/
def bufferedLen (s : SendStream) : Nat := (s.nextFrame.map StreamFrame.dataLen).getD 0

def canBufferStreamFrame (s : SendStream) : Bool :=
  decide (s.bufferedLen + s.dataForWriting.length ≤ MaxPacketBufferSize)

/-- `isNewlyCompleted`; the stream is marked if it is. -/
def isNewlyCompleted (s : SendStream) : Bool × SendStream :=
  if s.completed then (false, s)
  else if s.bufferedLen > 0 then (false, s)
  else if s.numOutstandingFrames > 0 ∨ s.retransmissionQueue ≠ [] ∨
      s.queuedResetStreamFrame.isSome then (false, s)
  else if s.finSent ∨ s.resetErr.isSome ∧ (s.cancellationFlagged ∨ s.finishedWriting) then
    (true, { s with completed := true })
  else (false, s)

/-! ## writing -/

/-- What a `Write` comes to: it returns, and perhaps the stream is completed, or it waits. -/
inductive WriteOutcome where
  | returned (n : Nat) (err : Option WriteError) (completed : Bool)
  | waits
  deriving DecidableEq, Repr

/-- The data is copied to the frame that is popped next. -/
def bufferData (s : SendStream) : SendStream :=
  match s.nextFrame with
  | none =>
    { s with
      nextFrame := some
        { streamID := s.streamID, offset := s.writeOffset, data := s.dataForWriting }
      dataForWriting := [] }
  | some f =>
    { s with nextFrame := some { f with data := f.data ++ s.dataForWriting }, dataForWriting := [] }

/-- A `Write` notices that the stream was reset. -/
def flagReset (s : SendStream) (n : Nat) (err : StreamError) : SendStream × WriteOutcome :=
  let (completed, s) := { s with cancellationFlagged := true }.isNewlyCompleted
  (s, .returned n (some (.reset err)) completed)

/-- The end of `write`, after the loop. -/
def finishWrite (s : SendStream) (len bytesWritten : Nat) : SendStream × WriteOutcome :=
  if bytesWritten = len then (s, .returned bytesWritten none false)
  else if s.shutdownErr then (s, .returned bytesWritten (some .shutdown) false)
  else
    match s.resetErr with
    | some err => s.flagReset bytesWritten err
    | none => (s, .returned bytesWritten none false)

/-- One round of the loop of `write`, for a slice of length `len`. -/
def writeRound (s : SendStream) (len : Nat) (expired : Bool) : SendStream × WriteOutcome :=
  if s.canBufferStreamFrame = true ∧ s.dataForWriting ≠ [] then
    (s.bufferData, .returned len none false)
  else
    let bytesWritten := len - s.dataForWriting.length
    if expired then
      ({ s with dataForWriting := [] }, .returned bytesWritten (some .deadline) false)
    else if s.dataForWriting = [] ∨ s.shutdownErr = true ∨ s.resetErr.isSome then
      s.finishWrite len bytesWritten
    else (s, .waits)

/-- `write` up to the first wait; `expired` and `expired'` are the two readings of the clock. -/
def write (s : SendStream) (p : Bytes) (expired expired' : Bool) : SendStream × WriteOutcome :=
  match s.resetErr with
  | some err => s.flagReset 0 err
  | none =>
    if s.shutdownErr then (s, .returned 0 (some .shutdown) false)
    else if s.finishedWriting then
      (s, .returned 0 (some (.writeOnClosedStream s.streamID)) false)
    else if expired then (s, .returned 0 (some .deadline) false)
    else if p = [] then (s, .returned 0 none false)
    else { s with dataForWriting := p }.writeRound p.length expired'

/-! ## popping STREAM frames -/

/-- The first frame of the queue, or a part of it: the frame, and whether there is more to
retransmit. -/
def maybeGetRetransmission (s : SendStream) (f : StreamFrame) (rest : List StreamFrame)
    (maxBytes : Int) : Except StreamPanic (SendStream × Option StreamFrame × Bool) := do
  let (f', newFrame, needsSplit) ← f.maybeSplitOffFrame maxBytes
  if needsSplit then return ({ s with retransmissionQueue := f' :: rest }, newFrame, true)
  else return ({ s with retransmissionQueue := rest }, some f, !rest.isEmpty)

def getDataForWriting (s : SendStream) (f : StreamFrame) (maxBytes : Nat) :
    Except StreamPanic (SendStream × StreamFrame) :=
  -- the frame comes from the pool, and its buffer is not larger
  if min s.dataForWriting.length maxBytes > MaxPacketBufferSize then .error .sliceBounds
  else if s.dataForWriting.length ≤ maxBytes then
    .ok ({ s with dataForWriting := [] }.signalWrite, { f with data := s.dataForWriting })
  else
    let s' := { s with dataForWriting := s.dataForWriting.drop maxBytes }
    .ok (if s'.canBufferStreamFrame then s'.signalWrite else s',
      { f with data := s.dataForWriting.take maxBytes })

/-- There is data or a FIN to send later. -/
def hasMoreData (s : SendStream) : Bool :=
  !s.dataForWriting.isEmpty || s.nextFrame.isSome || s.finishedWriting

def popNewStreamFrameWithoutBuffer (s : SendStream) (f : StreamFrame) (maxBytes : Int)
    (sendWindow : Nat) : Except StreamPanic (SendStream × StreamFrame × Bool) := do
  let maxDataLen ← f.maxDataLen maxBytes
  if maxDataLen = 0 then return (s, f, s.hasMoreData)
  else
    let (s, f) ← s.getDataForWriting f (min maxDataLen sendWindow)
    return (s, f, s.hasMoreData)

/-- Take the buffered frame, or a part of it. -/
def popNextFrame (s : SendStream) (nextFrame : StreamFrame) (maxDataLen : Nat) :
    SendStream × Option StreamFrame × Bool :=
  if maxDataLen = 0 then (s, none, true)
  else if nextFrame.dataLen > maxDataLen then
    -- the FIN bit of a new frame is set later, so what it is in a frame from the pool is ignored
    ({ s with
        nextFrame := some
          { streamID := s.streamID
            offset := s.writeOffset + maxDataLen
            data := nextFrame.data.drop maxDataLen } },
      some { nextFrame with data := nextFrame.data.take maxDataLen }, true)
  else ({ s with nextFrame := none }.signalWrite, some nextFrame, !s.dataForWriting.isEmpty)

def popNewStreamFrame (s : SendStream) (maxBytes : Int) (maxDataLen : Nat) :
    Except StreamPanic (SendStream × Option StreamFrame × Bool) := do
  match s.nextFrame with
  | some nextFrame =>
    return s.popNextFrame nextFrame (min maxDataLen (← nextFrame.maxDataLen maxBytes))
  | none =>
    let f := { streamID := s.streamID, offset := s.writeOffset }
    let (s, f, hasMoreData) ← s.popNewStreamFrameWithoutBuffer f maxBytes maxDataLen
    return (s, if f.data = [] ∧ f.fin = false then none else some f, hasMoreData)

/-- What `popStreamFrame` gives. -/
structure Popped where
  stream : SendStream
  frame : Option StreamFrame := none
  blocked : Option StreamDataBlockedFrame := none
  hasMore : Bool

/-- A new frame with its data is accounted for. -/
def accountNew (s : SendStream) (f : StreamFrame) (maxDataLen : Nat) (hasMoreData : Bool) :
    Popped :=
  let s := if f.dataLen > 0 then
    { s with
      writeOffset := s.writeOffset + f.dataLen
      flowController := s.flowController.addBytesSent f.dataLen } else s
  let hasMoreData := if s.resetErr.isSome ∧ s.writeOffset ≥ s.reliableOffset then false
    else hasMoreData
  let (isBlocked, flowController) := if f.dataLen = maxDataLen then
    s.flowController.isNewlyBlocked else (false, s.flowController)
  let fin := s.finishedWriting && s.dataForWriting.isEmpty && s.nextFrame.isNone && !s.finSent
  { stream := { s with flowController := flowController, finSent := s.finSent || fin }
    frame := some { f with fin := fin }
    blocked := if isBlocked then some ⟨s.streamID, s.writeOffset⟩ else none
    hasMore := hasMoreData }

/-- The part of `popNewOrRetransmittedStreamFrame` that is not about retransmissions. -/
def popUnsent (s : SendStream) (maxBytes : Int) : Except StreamPanic Popped := do
  if s.dataForWriting = [] ∧ s.nextFrame = none then
    if s.finishedWriting = true ∧ s.finSent = false then
      return {
        stream := { s with finSent := true }
        frame := some { streamID := s.streamID, offset := s.writeOffset, fin := true }
        hasMore := false }
    else return { stream := s, hasMore := false }
  else
    let window := s.flowController.sendWindowSize
    if window = 0 then return { stream := s, hasMore := true }
    else
      -- only the data up to the reliable size of a stream that was reset is sent
      let maxDataLen := if s.resetErr.isSome ∧ s.reliableOffset > 0 then
        min window (s.reliableOffset - s.writeOffset) else window
      let (s', f, hasMoreData) ← s.popNewStreamFrame maxBytes maxDataLen
      match f with
      | none => return { stream := s', hasMore := hasMoreData }
      | some f => return s'.accountNew f maxDataLen hasMoreData

/-- Nothing more is sent on the stream. -/
def stopped (s : SendStream) : Bool :=
  s.shutdownErr || s.resetErr.isSome && (decide (s.reliableOffset = 0) ||
    decide (s.writeOffset ≥ s.reliableOffset) && s.retransmissionQueue.isEmpty)

def popNewOrRetransmittedStreamFrame (s : SendStream) (maxBytes : Int) :
    Except StreamPanic Popped := do
  if s.stopped then return { stream := s, hasMore := false }
  else
    match s.retransmissionQueue with
    | [] => s.popUnsent maxBytes
    | f :: rest =>
      let (s, f, hasMoreRetransmissions) ← s.maybeGetRetransmission f rest maxBytes
      if f.isSome ∨ hasMoreRetransmissions = true then
        return { stream := s, frame := f, hasMore := true }
      else s.popUnsent maxBytes

def popStreamFrame (s : SendStream) (maxBytes : Int) : Except StreamPanic Popped := do
  let popped ← s.popNewOrRetransmittedStreamFrame maxBytes
  if popped.frame.isSome then
    let stream := popped.stream
    return { popped with
      stream := { stream with numOutstandingFrames := stream.numOutstandingFrames + 1 } }
  else return popped

/-! ## closing and cancelling -/

/-- `Close`: whether the stream is completed. -/
def close (s : SendStream) : Bool × SendStream :=
  if s.shutdownErr = true ∨ s.finishedWriting = true then (false, s)
  else
    { s with
      finishedWriting := true
      cancellationFlagged := s.cancellationFlagged || s.resetErr.isSome }.isNewlyCompleted

def setReliableBoundary (s : SendStream) : SendStream :=
  { s with reliableSize := s.writeOffset + s.bufferedLen }

def returnFramesToPool (s : SendStream) : SendStream :=
  { s with retransmissionQueue := [], nextFrame := none }

def cutFrame (reliableOffset : Nat) (f : StreamFrame) : Option StreamFrame :=
  if f.offset ≥ reliableOffset then none
  else if f.offset + f.dataLen > reliableOffset then
    some { f with data := f.data.take (reliableOffset - f.offset) }
  else some f

/-- `CancelWrite` of a stream that was not reset yet. -/
def resetLocally (s : SendStream) (errorCode : Nat) : SendStream :=
  let reliableOffset := s.reliableOffset
  let s := { s with
    resetErr := some { streamID := s.streamID, errorCode := errorCode, remote := false } }
  let s := if reliableOffset = 0 then { s with numOutstandingFrames := 0 }.returnFramesToPool
    else s
  let s := { s with
    queuedResetStreamFrame := some
      { streamID := s.streamID
        errorCode := errorCode
        finalSize := max s.writeOffset reliableOffset
        reliableSize := reliableOffset } }
  let s := if reliableOffset > 0 then
    { s with
      nextFrame := s.nextFrame.bind (cutFrame reliableOffset)
      retransmissionQueue := s.retransmissionQueue.filterMap (cutFrame reliableOffset) } else s
  s.signalWrite

/-- `CancelWrite`: whether the stream is completed. -/
def cancelWrite (s : SendStream) (errorCode : Nat) : Bool × SendStream :=
  if s.shutdownErr then (false, s)
  else if s.resetErr.isSome then { s with cancellationFlagged := true }.isNewlyCompleted
  else (false, { s with cancellationFlagged := true }.resetLocally errorCode)

def enableResetStreamAt (s : SendStream) : SendStream := { s with supportsResetStreamAt := true }

def updateSendWindow (s : SendStream) (limit : Nat) : SendStream :=
  { s with flowController := (s.flowController.updateSendWindow limit).2 }

def handleStopSendingFrame (s : SendStream) (errorCode : Nat) : SendStream :=
  if s.shutdownErr = true ∨ s.resetErr.isSome ∧ s.reliableOffset = 0 then s
  else
    let resetErr := s.resetErr.getD
      { streamID := s.streamID, errorCode := errorCode, remote := true }
    { { s with reliableSize := 0, numOutstandingFrames := 0 }.returnFramesToPool with
      resetErr := some resetErr
      queuedResetStreamFrame := some
        { streamID := s.streamID, errorCode := resetErr.errorCode, finalSize := s.writeOffset } }
      |>.signalWrite

def getControlFrame (s : SendStream) : Option ResetStreamFrame × SendStream :=
  match s.queuedResetStreamFrame with
  | none => (none, s)
  | some f =>
    (some f, { s with
      numOutstandingFrames := s.numOutstandingFrames + 1, queuedResetStreamFrame := none })

def closeForShutdown (s : SendStream) : SendStream :=
  if s.shutdownErr = false ∧ s.finishedWriting = false then
    ({ s with shutdownErr := true }.returnFramesToPool).signalWrite
  else s.signalWrite

/-! ## acknowledgements and losses -/

/-- No frame is waited for any more, since the stream was reset without a reliable size. -/
def abandoned (s : SendStream) : Bool := s.resetErr.isSome && decide (s.reliableOffset = 0)

/-- One frame less is outstanding. -/
def settleFrame (s : SendStream) : Except StreamPanic SendStream :=
  if s.numOutstandingFrames - 1 < 0 then .error .numOutstandingFramesNegative
  else .ok { s with numOutstandingFrames := s.numOutstandingFrames - 1 }

/-- `sendStreamAckHandler.OnAcked`: whether the stream is completed. -/
def onAcked (s : SendStream) : Except StreamPanic (Bool × SendStream) := do
  if s.abandoned then return (false, s)
  else return (← s.settleFrame).isNewlyCompleted

def onLost (s : SendStream) (sf : StreamFrame) : Except StreamPanic (Bool × SendStream) := do
  if s.abandoned then return (false, s)
  else
    let s ← s.settleFrame
    match if s.resetErr.isSome then cutFrame s.reliableOffset sf else some sf with
    | none => return s.isNewlyCompleted
    | some sf =>
      return (false, { s with
        retransmissionQueue := s.retransmissionQueue ++ [{ sf with dataLenPresent := true }] })

/-- `sendStreamResetStreamHandler.OnAcked`: whether the stream is completed. -/
def onResetAcked (s : SendStream) (rsf : ResetStreamFrame) :
    Except StreamPanic (Bool × SendStream) := do
  if rsf.reliableSize ≠ s.reliableOffset then return (false, s)
  else return (← s.settleFrame).isNewlyCompleted

/-- `sendStreamResetStreamHandler.OnLost`. -/
def onResetLost (s : SendStream) (rsf : ResetStreamFrame) : SendStream :=
  if rsf.reliableSize ≠ s.reliableOffset then s
  else
    { s with
      queuedResetStreamFrame := some rsf
      numOutstandingFrames := s.numOutstandingFrames - 1 }

end SendStream

end MoqQuic.Quic
