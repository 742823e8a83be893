import MoqQuic.Quic.StreamsMap.Values

/-!
# MoqQuic.Quic.StreamsMap.Outgoing

The streams of one type that we open: `streams_map_outgoing.go`.

Each definition is one section of the source under the mutex of the map. A call of `OpenStreamSync`
that has to wait gives the mutex up; it goes on with `cancelOpen` when its context is cancelled, and
with `resumeOpen` when there is a signal in the channel that it put into the queue. The channels are
numbered. The sections return the channel that is sent a signal.
-/

namespace MoqQuic.Quic

/-- `outgoingStream`. -/
class OutgoingStream (τ : Type) where
  updateSendWindow : τ → Nat → τ
  enableResetStreamAt : τ → τ
  closeForShutdown : τ → τ

structure StreamsBlockedFrame where
  type : StreamType
  streamLimit : StreamNum
  deriving DecidableEq, Repr

inductive OpenStreamError where
  /-- the map was closed -/
  | closed
  | streamLimitReached
  /-- the error of the context -/
  | context
  deriving DecidableEq, Repr

/-- The ways in which the map panics. -/
inductive OpenStreamPanic where
  | sliceBounds
  | sendOnClosedChannel
  deriving DecidableEq, Repr

structure OutgoingStreamsMap (τ : Type) where
  streamType : StreamType
  streams : AList (fun _ : StreamID => τ) := ∅
  openQueue : List Nat := []
  /-- stream ID of the stream returned by `OpenStream(Sync)` -/
  nextStream : StreamID
  /-- the maximum stream ID we're allowed to open -/
  maxStream : StreamID := InvalidStreamNum
  /-- was a STREAMS_BLOCKED sent for the current `maxStream` -/
  blockedSent : Bool := false
  /-- the frames that were queued -/
  blockedFrames : List StreamsBlockedFrame := []
  /-- an error was set -/
  closeErr : Bool := false

def newOutgoingStreamsMap {τ : Type} (streamType : StreamType) (pers : Perspective) :
    OutgoingStreamsMap τ where
  streamType := streamType
  nextStream := firstOutgoingStream streamType pers

namespace OutgoingStreamsMap

variable {τ : Type}

/-- `openStream`: the ID of the stream. -/
def openStream (newStream : StreamID → τ) (m : OutgoingStreamsMap τ) :
    StreamID × OutgoingStreamsMap τ :=
  (m.nextStream, { m with
    streams := m.streams.insert m.nextStream (newStream m.nextStream)
    nextStream := m.nextStream + 4 })

/-- `maybeSendBlockedFrame` queues a STREAMS_BLOCKED frame for the current stream offset, if we
haven't sent one for this offset yet. -/
def maybeSendBlockedFrame (m : OutgoingStreamsMap τ) : OutgoingStreamsMap τ :=
  if m.blockedSent then m
  else
    let streamLimit := if m.maxStream ≠ InvalidStreamID then StreamID.streamNum m.maxStream else 0
    { m with
      blockedFrames := m.blockedFrames ++ [{ type := m.streamType, streamLimit := streamLimit }]
      blockedSent := true }

/-- `maybeUnblockOpenSync`: the channel that is sent a signal. -/
def maybeUnblockOpenSync (m : OutgoingStreamsMap τ) : Option Nat :=
  match m.openQueue with
  | [] => none
  | c :: _ => if m.nextStream > m.maxStream then none else some c

/-- `OpenStream`: the ID of the stream. -/
def tryOpenStream (newStream : StreamID → τ) (m : OutgoingStreamsMap τ) :
    Except OpenStreamError StreamID × OutgoingStreamsMap τ :=
  if m.closeErr then (.error .closed, m)
  -- if there are OpenStreamSync calls waiting, return an error here
  else if m.openQueue.length > 0 ∨ m.nextStream > m.maxStream then
    (.error .streamLimitReached, m.maybeSendBlockedFrame)
  else
    let (id, m) := m.openStream newStream
    (.ok id, m)

/-- What a section of `OpenStreamSync` comes to. -/
inductive Opening where
  | failed (err : OpenStreamError)
  | opened (id : StreamID)
  | waits
  deriving DecidableEq, Repr

/-- `OpenStreamSync` up to the first wait; `waitChan` is the channel that it makes. -/
def openStreamSync (newStream : StreamID → τ) (m : OutgoingStreamsMap τ) (cancelled : Bool)
    (waitChan : Nat) : Opening × OutgoingStreamsMap τ :=
  if m.closeErr then (.failed .closed, m)
  else if cancelled then (.failed .context, m)
  else if m.openQueue.length = 0 ∧ m.nextStream ≤ m.maxStream then
    let (id, m) := m.openStream newStream
    (.opened id, m)
  else (.waits, { m with openQueue := m.openQueue ++ [waitChan] }.maybeSendBlockedFrame)

/-- `OpenStreamSync` once its context is cancelled. -/
def cancelOpen (m : OutgoingStreamsMap τ) (waitChan : Nat) : OutgoingStreamsMap τ × Option Nat :=
  let m := { m with openQueue := m.openQueue.filter fun c => decide (c ≠ waitChan) }
  -- this might have been the next stream that could be opened
  (m, m.maybeUnblockOpenSync)

/-- `OpenStreamSync` once it received from its channel. -/
def resumeOpen (newStream : StreamID → τ) (m : OutgoingStreamsMap τ) :
    Except OpenStreamPanic (Opening × OutgoingStreamsMap τ × Option Nat) :=
  if m.closeErr then .ok (.failed .closed, m, none)
  -- no stream available: continue waiting
  else if m.nextStream > m.maxStream then .ok (.waits, m, none)
  else
    let (id, m) := m.openStream newStream
    match m.openQueue with
    | [] => .error .sliceBounds
    | _ :: rest =>
      let m := { m with openQueue := rest }
      .ok (.opened id, m, m.maybeUnblockOpenSync)

/-- `GetStream`; an error if the peer attempted to open the stream. -/
def getStream (m : OutgoingStreamsMap τ) (id : StreamID) : Except StreamID (Option τ) :=
  if id ≥ m.nextStream then .error id else .ok (m.streams.lookup id)

/-- `DeleteStream`; an error if the stream is unknown. -/
def deleteStream (m : OutgoingStreamsMap τ) (id : StreamID) :
    Except StreamID (OutgoingStreamsMap τ) :=
  match m.streams.lookup id with
  | none => .error id
  | some _ => .ok { m with streams := m.streams.erase id }

def setMaxStream (m : OutgoingStreamsMap τ) (id : StreamID) : OutgoingStreamsMap τ × Option Nat :=
  if id ≤ m.maxStream then (m, none)
  else
    let m := { m with maxStream := id, blockedSent := false }
    let m := if m.maxStream < m.nextStream - 4 + 4 * (m.openQueue.length : Int) then
      m.maybeSendBlockedFrame else m
    (m, m.maybeUnblockOpenSync)

/-- `UpdateSendWindow`, when the peer's transport parameters are received. -/
def updateSendWindow [OutgoingStream τ] (m : OutgoingStreamsMap τ) (limit : Nat) :
    OutgoingStreamsMap τ :=
  { m with streams := mapValues (OutgoingStream.updateSendWindow · limit) m.streams }

def enableResetStreamAt [OutgoingStream τ] (m : OutgoingStreamsMap τ) : OutgoingStreamsMap τ :=
  { m with streams := mapValues OutgoingStream.enableResetStreamAt m.streams }

/-- `CloseWithError`: the channels that are closed. -/
def closeWithError [OutgoingStream τ] (m : OutgoingStreamsMap τ) :
    OutgoingStreamsMap τ × List Nat :=
  ({ m with
    closeErr := true
    streams := mapValues OutgoingStream.closeForShutdown m.streams
    openQueue := [] }, m.openQueue)

end OutgoingStreamsMap

end MoqQuic.Quic
