import MoqQuic.Lib.Machine
import MoqQuic.Quic.SendStream

/-!
# MoqQuic.Quic.SendStream.Link

A send stream between the application, the connection and the peer.

The calls on the stream come in any order. A STREAM frame or a RESET_STREAM frame that was
emitted is acknowledged or declared lost at most once, in any order, or never. Meanwhile the
connection may get a larger window, and other streams may use it.

The link remembers what the stream does not: which frames were emitted and acknowledged, how
often the stream reported that it is completed, and the bytes that were written.
-/

namespace MoqQuic.Quic

open Parse

structure SendLink where
  stream : SendStream
  /-- the length of the slice of the `Write` that waits -/
  writing : Option Nat := none
  /-- STREAM frames that are neither acknowledged nor lost -/
  inFlight : List StreamFrame := []
  /-- RESET_STREAM frames that are neither acknowledged nor lost -/
  resetsInFlight : List ResetStreamFrame := []
  /-- all STREAM frames that were emitted -/
  sent : List StreamFrame := []
  /-- those of them that were no retransmissions -/
  fresh : List StreamFrame := []
  /-- all RESET_STREAM frames that were emitted -/
  resets : List ResetStreamFrame := []
  acked : List StreamFrame := []
  ackedResets : List ResetStreamFrame := []
  /-- the number of calls of `onStreamCompleted` -/
  completions : Nat := 0
  /-- the bytes of all `Write` calls, without those that a call gave back at its deadline -/
  written : Bytes := []
  deriving DecidableEq, Repr

namespace SendLink

/-- A new stream, with a window for its data. -/
def new (streamID sendWindow : Nat) (connection : ConnectionFlowController)
    (supportsResetStreamAt : Bool) : SendLink where
  stream := newSendStream streamID (newStreamFlowController streamID connection 0 0 sendWindow)
    supportsResetStreamAt

inductive Op where
  | write (p : Bytes) (expired expired' : Bool)
  /-- a `Write` that waits gets a signal, or its timer fires -/
  | wake (timer expired : Bool)
  | close
  | setReliableBoundary
  | cancelWrite (errorCode : Nat)
  | enableResetStreamAt
  | closeForShutdown
  | updateSendWindow (limit : Nat)
  | handleStopSendingFrame (errorCode : Nat)
  | popStreamFrame (maxBytes : Int)
  | getControlFrame
  /-- the fate of a STREAM frame in flight, by its position -/
  | ackFrame (i : Nat)
  | loseFrame (i : Nat)
  | ackReset (i : Nat)
  | loseReset (i : Nat)
  /-- MAX_DATA -/
  | updateConnectionWindow (limit : Nat)
  /-- other streams of the connection send, within its window -/
  | othersSend (n : Nat)
  deriving DecidableEq, Repr

/-- The stream reports that it is completed. -/
def report (l : SendLink) (completed : Bool) : SendLink :=
  if completed then { l with completions := l.completions + 1 } else l

/-- A `Write` returns or waits. At its deadline it gives back the bytes that were not sent, of
which there are `rest`. -/
def afterWrite (l : SendLink) (len rest : Nat) :
    SendStream × SendStream.WriteOutcome → SendLink
  | (stream, .returned _ err completed) =>
    { l with
      stream := stream
      writing := none
      written := if err = some WriteError.deadline then l.written.take (l.written.length - rest)
        else l.written }.report completed
  | (stream, .waits) => { l with stream := stream, writing := some len }

/-- A call of `Write`; another one has to wait for its turn. -/
def write (l : SendLink) (p : Bytes) (expired expired' : Bool) : SendLink :=
  if l.writing.isSome then l
  else
    let result := l.stream.write p expired expired'
    -- the data is taken if the call gets to its loop
    if l.stream.resetErr = none ∧ l.stream.shutdownErr = false ∧
        l.stream.finishedWriting = false ∧ expired = false then
      { l with written := l.written ++ p }.afterWrite p.length p.length result
    else l.afterWrite p.length 0 result

def wake (l : SendLink) (timer expired : Bool) : SendLink :=
  match l.writing with
  | none => l
  | some len =>
    if l.stream.writeSignal = true ∨ timer = true then
      let stream := if timer then l.stream else { l.stream with writeSignal := false }
      l.afterWrite len stream.dataForWriting.length (stream.writeRound len expired)
    else l

def emit (l : SendLink) (popped : SendStream.Popped) : SendLink :=
  match popped.frame with
  | none => { l with stream := popped.stream }
  | some f =>
    { l with
      stream := popped.stream
      inFlight := l.inFlight ++ [f]
      sent := l.sent ++ [f]
      -- a frame that is popped while there are retransmissions is one of them
      fresh := if l.stream.retransmissionQueue = [] then l.fresh ++ [f] else l.fresh }

def step (l : SendLink) : Op → Except StreamPanic SendLink
  | .write p expired expired' => .ok (l.write p expired expired')
  | .wake timer expired => .ok (l.wake timer expired)
  | .close =>
    let (completed, stream) := l.stream.close
    .ok ({ l with stream := stream }.report completed)
  | .setReliableBoundary => .ok { l with stream := l.stream.setReliableBoundary }
  | .cancelWrite errorCode =>
    let (completed, stream) := l.stream.cancelWrite errorCode
    .ok ({ l with stream := stream }.report completed)
  | .enableResetStreamAt => .ok { l with stream := l.stream.enableResetStreamAt }
  | .closeForShutdown => .ok { l with stream := l.stream.closeForShutdown }
  | .updateSendWindow limit => .ok { l with stream := l.stream.updateSendWindow limit }
  | .handleStopSendingFrame errorCode =>
    .ok { l with stream := l.stream.handleStopSendingFrame errorCode }
  | .popStreamFrame maxBytes => do return l.emit (← l.stream.popStreamFrame maxBytes)
  | .getControlFrame =>
    match l.stream.getControlFrame with
    | (none, stream) => .ok { l with stream := stream }
    | (some f, stream) =>
      .ok { l with
        stream := stream
        resetsInFlight := l.resetsInFlight ++ [f]
        resets := l.resets ++ [f] }
  | .ackFrame i =>
    match l.inFlight[i]? with
    | none => .ok l
    | some f => do
      let (completed, stream) ← l.stream.onAcked
      return { l with
        stream := stream
        inFlight := l.inFlight.eraseIdx i
        acked := l.acked ++ [f] }.report completed
  | .loseFrame i =>
    match l.inFlight[i]? with
    | none => .ok l
    | some f => do
      let (completed, stream) ← l.stream.onLost f
      return { l with stream := stream, inFlight := l.inFlight.eraseIdx i }.report completed
  | .ackReset i =>
    match l.resetsInFlight[i]? with
    | none => .ok l
    | some f => do
      let (completed, stream) ← l.stream.onResetAcked f
      return { l with
        stream := stream
        resetsInFlight := l.resetsInFlight.eraseIdx i
        ackedResets := l.ackedResets ++ [f] }.report completed
  | .loseReset i =>
    match l.resetsInFlight[i]? with
    | none => .ok l
    | some f =>
      .ok { l with
        stream := l.stream.onResetLost f
        resetsInFlight := l.resetsInFlight.eraseIdx i }
  | .updateConnectionWindow limit =>
    let flow := l.stream.flowController
    let connection := (flow.connection.toBaseFlowController.updateSendWindow limit).2
    .ok { l with stream := { l.stream with
      flowController := { flow with connection := ⟨connection⟩ } } }
  | .othersSend n =>
    let flow := l.stream.flowController
    let connection := flow.connection.toBaseFlowController.addBytesSent
      (min n flow.connection.sendWindowSize)
    .ok { l with stream := { l.stream with
      flowController := { flow with connection := ⟨connection⟩ } } }

end SendLink

end MoqQuic.Quic
