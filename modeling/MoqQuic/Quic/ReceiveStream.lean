import MoqQuic.Quic.FrameSorter
import MoqQuic.Quic.SendStream

/-!
# MoqQuic.Quic.ReceiveStream

The receiving side of a stream: `receive_stream.go`.

Each definition is what happens under the mutex of the stream. A `Read` or `Peek` that has to wait
gives the mutex up, so it is cut at the wait: `readImpl` and `peekRound` run up to it, and
`wakeRead` and `wakePeek` go on after a signal or when the timer fires. A `Read` waits only before
it has read anything.

Time goes by while a `Read` copies data, so whether the deadline has passed is asked in each
round; `deadline` is the number of bytes that were read when it is first found to have passed.
The methods that finish after they released the mutex return what is left to do.
-/

namespace MoqQuic.Quic

open Parse

structure ReceiveStream (κ : Type) where
  streamID : Nat
  frameQueue : FrameSorter κ := {}
  finalOffset : Nat := MaxByteCount
  currentFrame : Option Bytes := none
  currentFrameDone : Option κ := none
  readPosInFrame : Nat := 0
  /-- is the current frame the last frame on this stream -/
  currentFrameIsLast : Bool := false
  queuedStopSending : Bool := false
  queuedMaxStreamData : Bool := false
  /-- set once the `io.EOF` or the cancellation error was read -/
  errorRead : Bool := false
  completed : Bool := false
  cancelledRemotely : Bool := false
  cancelledLocally : Bool := false
  cancelErr : Option StreamError := none
  /-- an error was set -/
  closeForShutdownErr : Bool := false
  readPos : Nat := 0
  reliableSize : Nat := 0
  /-- there is a signal in `readChan` -/
  readSignal : Bool := false
  flowController : StreamFlow

def newReceiveStream (κ : Type) (streamID : Nat) (flowController : StreamFlow) :
    ReceiveStream κ where
  streamID := streamID
  flowController := flowController

/-- What `Read` and `Peek` return besides data. -/
inductive ReadError where
  | eof
  | cancelled (err : Option StreamError)
  | shutdown
  | deadline
  | readPosBehindFrame (readPosInFrame dataLen : Nat)
  deriving DecidableEq, Repr

/-- The errors that close the connection. -/
inductive ReceiveError where
  | flowControl (err : FlowControlError)
  | sorter (err : SorterError)
  | panic (err : SorterPanic)
  deriving DecidableEq, Repr

namespace ReceiveStream

variable {κ : Type}

def signalRead (s : ReceiveStream κ) : ReceiveStream κ := { s with readSignal := true }

/-- `isNewlyCompleted`; the stream is marked if it is. -/
def isNewlyCompleted (s : ReceiveStream κ) : Bool × ReceiveStream κ :=
  if s.completed then (false, s)
  -- the final offset is needed for flow control accounting
  else if s.finalOffset = MaxByteCount then (false, s)
  else if s.cancelledLocally then (true, { s with completed := true })
  else if s.errorRead then (true, { s with completed := true })
  else (false, s)

/-- The stream was cancelled remotely, and all reliable data has been read. -/
def isRemoteCancellationEffective (s : ReceiveStream κ) : Bool :=
  s.cancelledRemotely && decide (s.readPos ≥ s.reliableSize)

/-- Reading comes to an end with the cancellation error. -/
def isCancelled (s : ReceiveStream κ) : Bool :=
  s.cancelledLocally || s.isRemoteCancellationEffective

def frameLen (s : ReceiveStream κ) : Nat := (s.currentFrame.getD []).length

/-- The current frame was read. -/
def needsFrame (s : ReceiveStream κ) : Bool :=
  s.currentFrame.isNone || decide (s.readPosInFrame ≥ s.frameLen)

def dequeueNextFrame (s : ReceiveStream κ) : Except SorterPanic (ReceiveStream κ) := do
  let (frameQueue, offset, currentFrame, currentFrameDone) ← s.frameQueue.pop
  return { s with
    frameQueue := { frameQueue with called := frameQueue.called ++ s.currentFrameDone.toList }
    currentFrame := currentFrame
    currentFrameDone := currentFrameDone
    currentFrameIsLast :=
      decide (offset + (currentFrame.getD []).length ≥ s.finalOffset) && !s.cancelledRemotely
    readPosInFrame := 0 }

/-- Dequeue the next frame, if the current one was read. -/
def nextFrame (s : ReceiveStream κ) : Except SorterPanic (ReceiveStream κ) :=
  if s.needsFrame then s.dequeueNextFrame else .ok s

/-! ## reading -/

/-- What a `Read` has come to. -/
structure ReadProgress where
  data : Bytes := []
  hasStreamWindowUpdate : Bool := false
  hasConnWindowUpdate : Bool := false

/-- What a `Read` comes to: it returns, or it waits. -/
inductive ReadOutcome where
  | returned (progress : ReadProgress) (err : Option ReadError)
  | waits

/-- One round of the loop of `readImpl`: it is the last, or there is another one. -/
inductive ReadRound where
  | last (outcome : ReadOutcome)
  | next (progress : ReadProgress)

/-- The deadline has passed. -/
def expired (deadline : Option Nat) (progress : ReadProgress) : Bool :=
  match deadline with
  | none => false
  | some n => decide (n ≤ progress.data.length)

/-- Copy data of the current frame to the rest of the buffer. -/
def copyFrame (s : ReceiveStream κ) (len : Nat) (progress : ReadProgress) :
    ReceiveStream κ × ReadProgress :=
  let data := ((s.currentFrame.getD []).drop s.readPosInFrame).take (len - progress.data.length)
  let m := data.length
  -- otherwise the flow controller was informed about the final offset already
  let (hasStream, hasConn, flowController) := if s.isRemoteCancellationEffective then
    (false, false, s.flowController) else s.flowController.addBytesRead m
  let s := { s with
    flowController := flowController
    queuedMaxStreamData := s.queuedMaxStreamData || hasStream
    readPosInFrame := s.readPosInFrame + m
    readPos := s.readPos + m }
  let s := if s.isRemoteCancellationEffective then
    { s with flowController := s.flowController.abandon } else s
  (s, { data := progress.data ++ data
        hasStreamWindowUpdate := progress.hasStreamWindowUpdate || hasStream
        hasConnWindowUpdate := progress.hasConnWindowUpdate || hasConn })

/-- A round, after the next frame was dequeued. There is a round only while less than `len` bytes
were read, so the check that no more were read than the buffer holds never fails; it is left out. -/
def readRound (s : ReceiveStream κ) (len : Nat) (deadline : Option Nat) (progress : ReadProgress) :
    ReceiveStream κ × ReadRound :=
  if s.closeForShutdownErr then (s, .last (.returned progress (some .shutdown)))
  else if s.isCancelled then
    ({ s with errorRead := true }, .last (.returned progress (some (.cancelled s.cancelErr))))
  else if expired deadline progress then (s, .last (.returned progress (some .deadline)))
  else if s.currentFrame = none ∧ s.currentFrameIsLast = false then (s, .last .waits)
  else if s.readPosInFrame > s.frameLen then
    (s, .last (.returned progress (some (.readPosBehindFrame s.readPosInFrame s.frameLen))))
  else
    let (s, progress) := s.copyFrame len progress
    if s.readPosInFrame ≥ s.frameLen ∧ s.currentFrameIsLast = true then
      ({ s with
          currentFrame := none
          frameQueue := { s.frameQueue with
            called := s.frameQueue.called ++ s.currentFrameDone.toList }
          errorRead := true },
        .last (.returned progress (some .eof)))
    else (s, .next progress)

/-- The end of `readImpl`, after the loop. -/
def readEnd (s : ReceiveStream κ) (progress : ReadProgress) : ReceiveStream κ × ReadOutcome :=
  if s.isRemoteCancellationEffective then
    ({ s with errorRead := true }, .returned progress (some (.cancelled s.cancelErr)))
  else (s, .returned progress none)

/-- The loop of `readImpl`, for a number of rounds. -/
def readLoop (len : Nat) (deadline : Option Nat) : Nat → ReceiveStream κ → ReadProgress →
    Except SorterPanic (ReceiveStream κ × ReadOutcome)
  | 0, s, progress => .ok (s.readEnd progress)
  | rounds + 1, s, progress => do
    if progress.data.length < len then
      let s ← s.nextFrame
      if s.currentFrame = none ∧ progress.data ≠ [] then
        return (s, .returned progress (if s.closeForShutdownErr then some .shutdown else none))
      else
        match s.readRound len deadline progress with
        | (s, .last outcome) => return (s, outcome)
        | (s, .next progress) => readLoop len deadline rounds s progress
    else return s.readEnd progress

/-- Enough rounds for a buffer of `len` bytes: each reads something or takes an empty frame from the
queue. -/
def rounds (s : ReceiveStream κ) (len : Nat) : Nat := len + s.frameQueue.queue.keys.length

/-- `readImpl` up to the first wait, for a buffer of `len` bytes. -/
def readImpl (s : ReceiveStream κ) (len : Nat) (deadline : Option Nat) :
    Except SorterPanic (ReceiveStream κ × ReadOutcome) :=
  if s.currentFrameIsLast = true ∧ s.currentFrame = none then
    .ok ({ s with errorRead := true }, .returned {} (some .eof))
  else if s.isCancelled then
    .ok ({ s with errorRead := true }, .returned {} (some (.cancelled s.cancelErr)))
  else if s.closeForShutdownErr then .ok (s, .returned {} (some .shutdown))
  else readLoop len deadline (s.rounds len) s {}

/-- `readImpl` after a wait. -/
def wakeRead (s : ReceiveStream κ) (len : Nat) (deadline : Option Nat) :
    Except SorterPanic (ReceiveStream κ × ReadOutcome) := do
  match (← s.dequeueNextFrame).readRound len deadline {} with
  | (s, .last outcome) => return (s, outcome)
  | (s, .next progress) => readLoop len deadline (s.rounds len) s progress

/-! ## peeking -/

inductive PeekOutcome where
  | returned (data : Bytes) (err : Option ReadError)
  | waits

/-- Peek at the data up to a position before which the stream ends, once all of it is there. -/
def peekUpTo (s : ReceiveStream κ) (available : Bytes) (stop : Nat) : Option Bytes :=
  let total := stop - s.readPos
  -- the current frame may reach beyond a reliable size
  if total ≤ available.length then some (available.take total)
  else (s.frameQueue.peek (s.readPos + available.length) (total - available.length)).map
    (available ++ ·)

/-- The part of `peekImpl` when the current frame is not read completely. -/
def peekFrame (s : ReceiveStream κ) (len : Nat) : Option (Bytes × Option ReadError) :=
  let available := (s.currentFrame.getD []).drop s.readPosInFrame
  if available.length ≥ len then some (available.take len, none)
  else
    match s.frameQueue.peek (s.readPos + available.length) (len - available.length) with
    | some data => some (available ++ data, none)
    | none =>
      if s.currentFrameIsLast then some (available, some .eof)
      else
        let cancelled := if s.cancelledRemotely = true ∧ s.readPos + len > s.reliableSize then
          s.peekUpTo available s.reliableSize else none
        let ended := if s.readPos + len > s.finalOffset then
          s.peekUpTo available s.finalOffset else none
        match cancelled, ended with
        | some data, _ => some (data, some (.cancelled s.cancelErr))
        | none, some data => some (data, some .eof)
        | none, none => none

/-- One round of the loop of `peekImpl`. -/
def peekRound (s : ReceiveStream κ) (len : Nat) (expired : Bool) :
    Except SorterPanic (ReceiveStream κ × PeekOutcome) := do
  if s.currentFrameIsLast = true ∧ s.currentFrame = none then return (s, .returned [] (some .eof))
  else if s.isCancelled then return (s, .returned [] (some (.cancelled s.cancelErr)))
  else if s.closeForShutdownErr then return (s, .returned [] (some .shutdown))
  else if expired then return (s, .returned [] (some .deadline))
  else
    let s ← s.nextFrame
    match if s.needsFrame then none else s.peekFrame len with
    | some (data, err) => return (s, .returned data err)
    | none =>
      if s.currentFrameIsLast = true ∨ s.readPos ≥ s.finalOffset then
        return (s, .returned [] (some .eof))
      else return (s, .waits)

/-- `peekImpl` after a wait. -/
def wakePeek (s : ReceiveStream κ) (len : Nat) (expired : Bool) :
    Except SorterPanic (ReceiveStream κ × PeekOutcome) := do
  let s ← s.nextFrame
  s.peekRound len expired

/-- `Peek` up to the first wait. -/
def peek (s : ReceiveStream κ) (len : Nat) (expired : Bool) :
    Except SorterPanic (ReceiveStream κ × PeekOutcome) :=
  if len = 0 then .ok (s, .returned [] none) else s.peekRound len expired

/-! ## cancelling -/

/-- `cancelReadImpl`: whether there is a new control frame. -/
def cancelReadImpl (s : ReceiveStream κ) (errorCode : Nat) : Bool × ReceiveStream κ :=
  if s.cancelledLocally then (false, s)
  else if s.closeForShutdownErr then (false, s)
  else
    have s := { s with cancelledLocally := true }
    if s.errorRead = true ∨ s.cancelledRemotely = true then (false, s)
    else
      (true, { s with
        queuedStopSending := true
        cancelErr := some { streamID := s.streamID, errorCode := errorCode, remote := false } }
        |>.signalRead)

/-- `CancelRead` under the mutex: whether the stream is completed. If it is, the flow controller is
abandoned afterwards. -/
def cancelRead (s : ReceiveStream κ) (errorCode : Nat) : Bool × ReceiveStream κ :=
  (s.cancelReadImpl errorCode).2.isNewlyCompleted

def closeForShutdown (s : ReceiveStream κ) : ReceiveStream κ :=
  { s with closeForShutdownErr := true }.signalRead

/-- `SetReadDeadline`; the deadline itself is an argument of `Read` and `Peek` here. -/
def setReadDeadline (s : ReceiveStream κ) : ReceiveStream κ := s.signalRead

/-! ## frames -/

def handleStreamFrameImpl (s : ReceiveStream κ) (frame : StreamFrame) (putBack : Option κ)
    (now : Time) : Except SorterPanic (Option ReceiveError × ReceiveStream κ) := do
  let maxOffset := frame.offset + frame.dataLen
  match s.flowController.updateHighestReceived maxOffset frame.fin now with
  | (flowController, some err) =>
    return (some (.flowControl err), { s with flowController := flowController })
  | (flowController, none) =>
    let s := { s with
      flowController := flowController
      finalOffset := if frame.fin then maxOffset else s.finalOffset }
    if s.cancelledLocally then return (none, s)
    else
      let (frameQueue, err) ← s.frameQueue.pushFrame frame.data frame.offset putBack
      let s := { s with frameQueue := frameQueue }
      match err with
      | some err => return (some (.sorter err), s)
      | none => return (none, s.signalRead)

/-- `handleStreamFrame` under the mutex: the error, and whether the stream is completed. If it is,
the flow controller is abandoned afterwards. -/
def handleStreamFrame (s : ReceiveStream κ) (frame : StreamFrame) (putBack : Option κ)
    (now : Time) : Except SorterPanic (Option ReceiveError × Bool × ReceiveStream κ) := do
  let (err, s) ← s.handleStreamFrameImpl frame putBack now
  return (err, s.isNewlyCompleted)

def handleResetStreamFrameImpl (s : ReceiveStream κ) (frame : ResetStreamFrame) (now : Time) :
    Option ReceiveError × ReceiveStream κ :=
  if s.closeForShutdownErr then (none, s)
  else
    match s.flowController.updateHighestReceived frame.finalSize true now with
    | (flowController, some err) =>
      (some (.flowControl err), { s with flowController := flowController })
    | (flowController, none) =>
      -- the reliable size may be reduced, but frames might have been reordered
      let reliableSize := if s.cancelledRemotely = false ∧ s.reliableSize = 0 ∨
          frame.reliableSize < s.reliableSize then frame.reliableSize else s.reliableSize
      let s := { s with
        finalOffset := frame.finalSize
        reliableSize := reliableSize
        flowController := if s.readPos ≥ reliableSize then flowController.abandon
          else flowController }
      if s.cancelledRemotely then (none, s)
      else if s.cancelledLocally then (none, s)
      else
        (none, { s with
          cancelledRemotely := true
          cancelErr := some
            { streamID := s.streamID, errorCode := frame.errorCode, remote := true } }
          |>.signalRead)

/-- `handleResetStreamFrame`: the error, and whether the stream is completed. -/
def handleResetStreamFrame (s : ReceiveStream κ) (frame : ResetStreamFrame) (now : Time) :
    Option ReceiveError × Bool × ReceiveStream κ :=
  let (err, s) := s.handleResetStreamFrameImpl frame now
  (err, s.isNewlyCompleted)

/-! ## control frames -/

inductive ReceiveControlFrame where
  | stopSending (streamID errorCode : Nat)
  | maxStreamData (streamID maximumStreamData : Nat)
  deriving DecidableEq, Repr

/-- `getControlFrame`; `allowed` and `allowed'` are the answers of `allowWindowIncrease`. -/
def getControlFrame (s : ReceiveStream κ) (now : Time) (rtt : Duration) (allowed allowed' : Bool) :
    Option ReceiveControlFrame × ReceiveStream κ :=
  if s.queuedStopSending = false ∧ s.queuedMaxStreamData = false then (none, s)
  else if s.queuedStopSending then
    (s.cancelErr.map fun err => .stopSending s.streamID err.errorCode,
      { s with queuedStopSending := false })
  else
    let (offset, flowController) := s.flowController.getWindowUpdate now rtt allowed allowed'
    (some (.maxStreamData s.streamID offset),
      { s with queuedMaxStreamData := false, flowController := flowController })

end ReceiveStream

end MoqQuic.Quic
