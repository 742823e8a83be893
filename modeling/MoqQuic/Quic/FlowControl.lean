import MoqQuic.Congestion.Bbrv3

/-!
# MoqQuic.Quic.FlowControl

Flow control: `internal/flowcontrol`.

Both controllers of a connection share a base. The one of a stream passes what it counts on to
the one of the connection; a `StreamFlow` is the pair, since the other streams work on the same
connection.

Where the source subtracts a larger count from a smaller one, it only asks whether the result is
positive or at most some bound; `Nat` gives the same answers. The shares of the window that the
source computes in floating point are exact here, rounded towards zero. The RTT statistics and
the answer of `allowWindowIncrease` are arguments.
-/

namespace MoqQuic.Quic

structure BaseFlowController where
  -- for sending data
  bytesSent : Nat := 0
  sendWindow : Nat := 0
  lastBlockedAt : Nat := 0
  -- for receiving data
  bytesRead : Nat := 0
  highestReceived : Nat := 0
  receiveWindow : Nat
  receiveWindowSize : Nat
  maxReceiveWindowSize : Nat
  epochStartTime : Time := 0
  epochStartOffset : Nat := 0
  deriving DecidableEq, Repr

namespace BaseFlowController

def sendWindowSize (c : BaseFlowController) : Nat :=
  -- more was sent only before the transport parameters of the peer arrived
  if c.bytesSent > c.sendWindow then 0 else c.sendWindow - c.bytesSent

def isNewlyBlocked (c : BaseFlowController) : Bool × BaseFlowController :=
  if c.sendWindowSize ≠ 0 ∨ c.sendWindow = c.lastBlockedAt then (false, c)
  else (true, { c with lastBlockedAt := c.sendWindow })

def addBytesSent (c : BaseFlowController) (n : Nat) : BaseFlowController :=
  { c with bytesSent := c.bytesSent + n }

/-- `UpdateSendWindow`: whether the window was updated. -/
def updateSendWindow (c : BaseFlowController) (offset : Nat) : Bool × BaseFlowController :=
  if offset > c.sendWindow then (true, { c with sendWindow := offset }) else (false, c)

def addBytesRead (c : BaseFlowController) (n : Nat) : BaseFlowController :=
  { c with bytesRead := c.bytesRead + n }

/-- `hasWindowUpdate`: at most three quarters of the window are left. -/
def hasWindowUpdate (c : BaseFlowController) : Bool :=
  decide (c.receiveWindow - c.bytesRead ≤ 3 * c.receiveWindowSize / 4)

def startNewAutoTuningEpoch (c : BaseFlowController) (now : Time) : BaseFlowController :=
  { c with epochStartTime := now, epochStartOffset := c.bytesRead }

def maybeAdjustWindowSize (c : BaseFlowController) (now : Time) (rtt : Duration)
    (allowed : Bool) : BaseFlowController :=
  let bytesReadInEpoch := c.bytesRead - c.epochStartOffset
  if bytesReadInEpoch ≤ c.receiveWindowSize / 2 ∨ rtt = 0 then c
  else
    -- the window is consumed too fast
    let tooFast := now - c.epochStartTime <
      (4 * (bytesReadInEpoch : Int) * rtt).tdiv c.receiveWindowSize
    let newSize := min (2 * c.receiveWindowSize) c.maxReceiveWindowSize
    let c := if tooFast ∧ newSize > c.receiveWindowSize ∧ allowed = true then
      { c with receiveWindowSize := newSize } else c
    c.startNewAutoTuningEpoch now

/-- `getWindowUpdate`: the new window, or zero. -/
def getWindowUpdate (c : BaseFlowController) (now : Time) (rtt : Duration) (allowed : Bool) :
    Nat × BaseFlowController :=
  if c.hasWindowUpdate then
    let c := c.maybeAdjustWindowSize now rtt allowed
    let c := { c with receiveWindow := c.bytesRead + c.receiveWindowSize }
    (c.receiveWindow, c)
  else (0, c)

def checkFlowControlViolation (c : BaseFlowController) : Bool :=
  decide (c.highestReceived > c.receiveWindow)

end BaseFlowController

/-- The transport errors of flow control. -/
inductive FlowControlError where
  | inconsistentFinalOffset (streamID old new : Nat)
  | beyondFinalOffset (offset streamID final : Nat)
  | finalOffsetTooLow (offset streamID received : Nat)
  | streamLimit (offset streamID allowed : Nat)
  | connectionLimit (received allowed : Nat)
  deriving DecidableEq, Repr

namespace FlowControlError

/-- The error is a `FINAL_SIZE_ERROR`, and otherwise a `FLOW_CONTROL_ERROR`. -/
def isFinalSizeError : FlowControlError → Bool
  | inconsistentFinalOffset .. | beyondFinalOffset .. | finalOffsetTooLow .. => true
  | streamLimit .. | connectionLimit .. => false

def message : FlowControlError → String
  | inconsistentFinalOffset streamID old new =>
    s!"received inconsistent final offset for stream {streamID} (old: {old}, new: {new} bytes)"
  | beyondFinalOffset offset streamID final =>
    s!"received offset {offset} for stream {streamID}, but final offset was already received " ++
      s!"at {final}"
  | finalOffsetTooLow offset streamID received =>
    s!"received final offset {offset} for stream {streamID}, but already received offset " ++
      s!"{received} before"
  | streamLimit offset streamID allowed =>
    s!"received {offset} bytes on stream {streamID}, allowed {allowed} bytes"
  | connectionLimit received allowed =>
    s!"received {received} bytes for the connection, allowed {allowed} bytes"

end FlowControlError

/-! ## the connection -/

structure ConnectionFlowController extends BaseFlowController where
  deriving DecidableEq, Repr

namespace ConnectionFlowController

def new (receiveWindow maxReceiveWindow : Nat) : ConnectionFlowController where
  receiveWindow := receiveWindow
  receiveWindowSize := receiveWindow
  maxReceiveWindowSize := maxReceiveWindow

/-- `IncrementHighestReceived`; the count is raised also when that is a violation. -/
def incrementHighestReceived (c : ConnectionFlowController) (increment : Nat) (now : Time) :
    ConnectionFlowController × Option FlowControlError :=
  let c := if c.highestReceived = 0 then ⟨c.startNewAutoTuningEpoch now⟩ else c
  let c : ConnectionFlowController := { c with highestReceived := c.highestReceived + increment }
  (c, if c.checkFlowControlViolation then
    some (.connectionLimit c.highestReceived c.receiveWindow) else none)

/-- `AddBytesRead`: whether there is a window update. -/
def addBytesRead (c : ConnectionFlowController) (n : Nat) : Bool × ConnectionFlowController :=
  let c : ConnectionFlowController := ⟨c.toBaseFlowController.addBytesRead n⟩
  (c.hasWindowUpdate, c)

def getWindowUpdate (c : ConnectionFlowController) (now : Time) (rtt : Duration) (allowed : Bool) :
    Nat × ConnectionFlowController :=
  let (offset, base) := c.toBaseFlowController.getWindowUpdate now rtt allowed
  (offset, ⟨base⟩)

def ensureMinimumWindowSize (c : ConnectionFlowController) (inc : Nat) (now : Time)
    (allowed : Bool) : ConnectionFlowController :=
  if inc ≤ c.receiveWindowSize then c
  else
    let newSize := min inc c.maxReceiveWindowSize
    let c := if newSize > c.receiveWindowSize ∧ allowed = true then
      { c with receiveWindowSize := newSize } else c
    ⟨c.startNewAutoTuningEpoch now⟩

end ConnectionFlowController

/-! ## a stream -/

structure StreamFlowController extends BaseFlowController where
  streamID : Nat
  receivedFinalOffset : Bool := false
  deriving DecidableEq, Repr

/-- The flow controller of a stream, with the one of the connection that it refers to. -/
structure StreamFlow where
  stream : StreamFlowController
  connection : ConnectionFlowController
  deriving DecidableEq, Repr

def newStreamFlowController (streamID : Nat) (connection : ConnectionFlowController)
    (receiveWindow maxReceiveWindow initialSendWindow : Nat) : StreamFlow where
  stream :=
    { streamID := streamID
      receiveWindow := receiveWindow
      receiveWindowSize := receiveWindow
      maxReceiveWindowSize := maxReceiveWindow
      sendWindow := initialSendWindow }
  connection := connection

namespace StreamFlow

def sendWindowSize (c : StreamFlow) : Nat :=
  min c.stream.sendWindowSize c.connection.sendWindowSize

def addBytesSent (c : StreamFlow) (n : Nat) : StreamFlow where
  stream := { c.stream with bytesSent := c.stream.bytesSent + n }
  connection := ⟨c.connection.toBaseFlowController.addBytesSent n⟩

/-- `IsNewlyBlocked` looks at the limit of the stream only. -/
def isNewlyBlocked (c : StreamFlow) : Bool × StreamFlow :=
  let (blocked, base) := c.stream.toBaseFlowController.isNewlyBlocked
  (blocked, { c with stream := { c.stream with toBaseFlowController := base } })

def updateSendWindow (c : StreamFlow) (offset : Nat) : Bool × StreamFlow :=
  let (updated, base) := c.stream.toBaseFlowController.updateSendWindow offset
  (updated, { c with stream := { c.stream with toBaseFlowController := base } })

/-- A higher offset is received. -/
def raiseHighestReceived (c : StreamFlow) (offset : Nat) (now : Time) :
    StreamFlow × Option FlowControlError :=
  let base := c.stream.toBaseFlowController
  let base := if base.highestReceived = 0 then base.startNewAutoTuningEpoch now else base
  let increment := offset - base.highestReceived
  let stream := { c.stream with
    toBaseFlowController := { base with highestReceived := offset } }
  if stream.checkFlowControlViolation then
    ({ c with stream := stream }, some (.streamLimit offset stream.streamID stream.receiveWindow))
  else
    let (connection, err) := c.connection.incrementHighestReceived increment now
    (⟨stream, connection⟩, err)

def updateHighestReceived (c : StreamFlow) (offset : Nat) (final : Bool) (now : Time) :
    StreamFlow × Option FlowControlError :=
  let highest := c.stream.highestReceived
  if c.stream.receivedFinalOffset = true ∧ final = true ∧ offset ≠ highest then
    (c, some (.inconsistentFinalOffset c.stream.streamID highest offset))
  else if c.stream.receivedFinalOffset = true ∧ offset > highest then
    (c, some (.beyondFinalOffset offset c.stream.streamID highest))
  else
    let c := if final then { c with stream := { c.stream with receivedFinalOffset := true } }
      else c
    if offset = highest then (c, none)
    else if offset < highest then
      (c, if final then some (.finalOffsetTooLow offset c.stream.streamID highest) else none)
    else c.raiseHighestReceived offset now

/-- `AddBytesRead`: whether the stream and the connection have a window update. -/
def addBytesRead (c : StreamFlow) (n : Nat) : Bool × Bool × StreamFlow :=
  let stream := { c.stream with bytesRead := c.stream.bytesRead + n }
  let (hasConnWindowUpdate, connection) := c.connection.addBytesRead n
  (!stream.receivedFinalOffset && stream.hasWindowUpdate, hasConnWindowUpdate, ⟨stream, connection⟩)

def abandon (c : StreamFlow) : StreamFlow :=
  let unread := c.stream.highestReceived - c.stream.bytesRead
  let stream := { c.stream with bytesRead := c.stream.highestReceived }
  if unread > 0 then ⟨stream, (c.connection.addBytesRead unread).2⟩
  else { c with stream := stream }

/-- `GetWindowUpdate`; `allowed` and `allowed'` are the answers to the stream and to the
connection. -/
def getWindowUpdate (c : StreamFlow) (now : Time) (rtt : Duration) (allowed allowed' : Bool) :
    Nat × StreamFlow :=
  if c.stream.receivedFinalOffset then (0, c)
  else
    let (offset, base) := c.stream.toBaseFlowController.getWindowUpdate now rtt allowed
    let connection := if base.receiveWindowSize > c.stream.receiveWindowSize then
      c.connection.ensureMinimumWindowSize (3 * base.receiveWindowSize / 2) now allowed'
    else c.connection
    (offset, ⟨{ c.stream with toBaseFlowController := base }, connection⟩)

end StreamFlow

end MoqQuic.Quic
