import MoqQuic.Lib.Machine
import MoqQuic.Lib.Outcome
import MoqQuic.Quic.ReceiveStream

/-!
# MoqQuic.Quic.ReceiveStream.Link

A receive stream between the peer, the application and the connection.

Frames arrive and calls are made in any order. `Read` and `Peek` are not used concurrently, since
the stream lets in one of them at a time; a call that comes while another one waits has to wait for
its turn. The flow controller of the connection is shared with other streams.

What a method does after it released the mutex is a step of its own: other calls may come first.

The link remembers what the stream does not: the frames that were received, the bytes that `Read`
returned, and how often the stream reported that it is completed.
-/

namespace MoqQuic.Quic

open Outcome Parse

/-- A call that waits. -/
inductive ReceiveCall where
  | read (len : Nat)
  | peek (len : Nat)
  deriving DecidableEq, Repr

/-- What a call returned. -/
inductive ReceiveOutput where
  | read (data : Bytes) (err : Option ReadError)
  /-- for a buffer of `len` bytes -/
  | peek (len : Nat) (data : Bytes) (err : Option ReadError)
  deriving DecidableEq, Repr

/-- What is left to do once the stream is completed. -/
inductive Completing where
  /-- the flow controller is abandoned, and then the completion is reported -/
  | abandon
  | report
  deriving DecidableEq, Repr

structure ReceiveLink (κ : Type) where
  stream : ReceiveStream κ
  waiting : Option ReceiveCall := none
  /-- the STREAM frames that were received -/
  frames : List StreamFrame := []
  /-- the bytes that were read -/
  delivered : Bytes := []
  /-- what the call returned that ended in the last step -/
  output : Option ReceiveOutput := none
  completing : Option Completing := none
  /-- the number of calls of `onStreamCompleted` -/
  completions : Nat := 0
  /-- the bytes that the other streams of the connection read -/
  othersRead : Nat := 0

namespace ReceiveLink

variable {κ : Type}

/-- A new stream with a window for its data. -/
def new (κ : Type) (streamID receiveWindow maxReceiveWindow : Nat)
    (connection : ConnectionFlowController) : ReceiveLink κ where
  stream := newReceiveStream κ streamID
    (newStreamFlowController streamID connection receiveWindow maxReceiveWindow 0)

inductive Op (κ : Type) where
  | streamFrame (frame : StreamFrame) (putBack : Option κ) (now : Time)
  | resetStreamFrame (frame : ResetStreamFrame) (now : Time)
  | read (len : Nat) (deadline : Option Nat)
  | peek (len : Nat) (expired : Bool)
  /-- a call that waits gets a signal, or its timer fires -/
  | wake (timer : Bool) (deadline : Option Nat)
  | cancelRead (errorCode : Nat)
  | closeForShutdown
  | setReadDeadline
  | getControlFrame (now : Time) (rtt : Duration) (allowed allowed' : Bool)
  /-- a method goes on after it completed the stream and released the mutex -/
  | finish
  /-- other streams use the flow controller of the connection, and read `n` bytes -/
  | others (n : Nat) (connection : ConnectionFlowController)

/-- The stream is completed. -/
def complete (l : ReceiveLink κ) (completed : Bool) (completing : Completing) : ReceiveLink κ :=
  if completed then { l with completing := some completing } else l

def afterRead (l : ReceiveLink κ) (len : Nat) :
    ReceiveStream κ × ReceiveStream.ReadOutcome → ReceiveLink κ
  | (stream, .returned progress err) =>
    let (completed, stream) := stream.isNewlyCompleted
    { l with
      stream := stream
      waiting := none
      delivered := l.delivered ++ progress.data
      output := some (.read progress.data err) }.complete completed .report
  | (stream, .waits) => { l with stream := stream, waiting := some (.read len) }

def afterPeek (l : ReceiveLink κ) (len : Nat) :
    ReceiveStream κ × ReceiveStream.PeekOutcome → ReceiveLink κ
  | (stream, .returned data err) =>
    { l with stream := stream, waiting := none, output := some (.peek len data err) }
  | (stream, .waits) => { l with stream := stream, waiting := some (.peek len) }

/-- A panic is an error of the link. -/
def orPanic {α : Type} : Except SorterPanic α → Except ReceiveError α
  | .ok a => .ok a
  | .error err => .error (.panic err)

theorem holds_orPanic {α : Type} {E : SorterPanic → Prop} {E' : ReceiveError → Prop}
    {Q : α → Prop} {x : Except SorterPanic α} (h : Holds E Q x) (hE : ∀ e, E e → E' (.panic e)) :
    Holds E' Q (orPanic x) := by
  cases x with
  | error e => exact hE e h
  | ok a => exact h

def wake (l : ReceiveLink κ) (timer : Bool) (deadline : Option Nat) :
    Except ReceiveError (ReceiveLink κ) :=
  if l.stream.readSignal = true ∨ timer = true then
    let stream := if timer then l.stream else { l.stream with readSignal := false }
    match l.waiting with
    | none => .ok l
    | some (.read len) => do return l.afterRead len (← orPanic (stream.wakeRead len deadline))
    | some (.peek len) => do
      return l.afterPeek len (← orPanic (stream.wakePeek len (decide (deadline = some 0))))
  else .ok l

/-- What the method that completed the stream does next. -/
def finish (l : ReceiveLink κ) : ReceiveLink κ :=
  match l.completing with
  | none => l
  | some .abandon =>
    { l with
      stream := { l.stream with flowController := l.stream.flowController.abandon }
      completing := some .report }
  | some .report => { l with completing := none, completions := l.completions + 1 }

def handle (l : ReceiveLink κ) : Op κ → Except ReceiveError (ReceiveLink κ)
  | .streamFrame frame putBack now => do
    match ← orPanic (l.stream.handleStreamFrame frame putBack now) with
    | (some err, _) => .error err
    | (none, completed, stream) =>
      return { l with stream := stream, frames := l.frames ++ [frame] }.complete completed
        .abandon
  | .resetStreamFrame frame now =>
    match l.stream.handleResetStreamFrame frame now with
    | (some err, _) => .error err
    | (none, completed, stream) => .ok ({ l with stream := stream }.complete completed .report)
  | .read len deadline =>
    if l.waiting.isSome then .ok l
    else do return l.afterRead len (← orPanic (l.stream.readImpl len deadline))
  | .peek len expired =>
    -- an empty buffer is returned before the turn is waited for
    if l.waiting.isSome = true ∧ len ≠ 0 then .ok l
    else if len = 0 then .ok { l with output := some (.peek 0 [] none) }
    else do return l.afterPeek len (← orPanic (l.stream.peek len expired))
  | .wake timer deadline => l.wake timer deadline
  | .cancelRead errorCode =>
    let (completed, stream) := l.stream.cancelRead errorCode
    .ok ({ l with stream := stream }.complete completed .abandon)
  | .closeForShutdown => .ok { l with stream := l.stream.closeForShutdown }
  | .setReadDeadline => .ok { l with stream := l.stream.setReadDeadline }
  | .getControlFrame now rtt allowed allowed' =>
    .ok { l with stream := (l.stream.getControlFrame now rtt allowed allowed').2 }
  | .finish => .ok l.finish
  | .others n connection =>
    let flow := l.stream.flowController
    .ok { l with
      stream := { l.stream with flowController := { flow with
        connection := { connection with bytesRead := flow.connection.bytesRead + n } } }
      othersRead := l.othersRead + n }

/-- One step. A connection error and a panic end the run. -/
def step (l : ReceiveLink κ) (op : Op κ) : Except ReceiveError (ReceiveLink κ) :=
  { l with output := none }.handle op

end ReceiveLink

end MoqQuic.Quic
