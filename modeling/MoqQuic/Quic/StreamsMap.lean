import MoqQuic.Quic.StreamsMap.Incoming
import MoqQuic.Quic.StreamsMap.Outgoing

/-!
# MoqQuic.Quic.StreamsMap

All streams of a connection: `streams_map.go`.

The streams that we send on are in three maps, by who opened them and by their type. The map of the
unidirectional streams of the peer is left out, since nothing is sent on them. `OpenStream` and
`OpenUniStream` are one definition with the type of the stream, as are their variants that wait.
-/

namespace MoqQuic.Quic

/-- What the streams depend on, of the transport parameters of the peer. -/
structure TransportParameters where
  initialMaxStreamDataBidiRemote : Nat
  initialMaxStreamDataUni : Nat
  maxBidiStreamNum : StreamNum
  maxUniStreamNum : StreamNum
  enableResetStreamAt : Bool
  deriving DecidableEq, Repr

structure StreamsMap (τ : Type) where
  perspective : Perspective
  maxIncomingBidiStreams : Nat
  outgoingBidiStreams : OutgoingStreamsMap τ
  outgoingUniStreams : OutgoingStreamsMap τ
  incomingBidiStreams : IncomingStreamsMap τ
  reset : Bool := false
  supportsResetStreamAt : Bool := false

def newStreamsMap {τ : Type} (maxIncomingBidiStreams : Nat) (perspective : Perspective) :
    StreamsMap τ where
  perspective := perspective
  maxIncomingBidiStreams := maxIncomingBidiStreams
  outgoingBidiStreams := newOutgoingStreamsMap .bidi perspective
  outgoingUniStreams := newOutgoingStreamsMap .uni perspective
  incomingBidiStreams := newIncomingStreamsMap .bidi maxIncomingBidiStreams perspective

namespace StreamsMap

variable {τ : Type}

def initMaps (m : StreamsMap τ) : StreamsMap τ :=
  { m with
    outgoingBidiStreams := newOutgoingStreamsMap .bidi m.perspective
    outgoingUniStreams := newOutgoingStreamsMap .uni m.perspective
    incomingBidiStreams := newIncomingStreamsMap .bidi m.maxIncomingBidiStreams m.perspective }

/-- The streams of a type that we open. -/
def outgoing (m : StreamsMap τ) : StreamType → OutgoingStreamsMap τ
  | .bidi => m.outgoingBidiStreams
  | .uni => m.outgoingUniStreams

def setOutgoing (m : StreamsMap τ) (t : StreamType) (streams : OutgoingStreamsMap τ) :
    StreamsMap τ :=
  match t with
  | .bidi => { m with outgoingBidiStreams := streams }
  | .uni => { m with outgoingUniStreams := streams }

/-! ## opening streams

A new stream is made with what the map knows about the peer at that time. -/

/-- `OpenStream` and `OpenUniStream`; nothing is returned if 0-RTT was rejected. -/
def openStream (newStream : StreamID → Bool → τ) (m : StreamsMap τ) (t : StreamType) :
    Option (Except OpenStreamError StreamID) × StreamsMap τ :=
  if m.reset then (none, m)
  else
    let (result, streams) := (m.outgoing t).tryOpenStream (newStream · m.supportsResetStreamAt)
    (some result, m.setOutgoing t streams)

/-- `OpenStreamSync` and `OpenUniStreamSync` up to the first wait. -/
def openStreamSync (newStream : StreamID → Bool → τ) (m : StreamsMap τ) (t : StreamType)
    (cancelled : Bool) (waitChan : Nat) : Option OutgoingStreamsMap.Opening × StreamsMap τ :=
  if m.reset then (none, m)
  else
    let (result, streams) :=
      (m.outgoing t).openStreamSync (newStream · m.supportsResetStreamAt) cancelled waitChan
    (some result, m.setOutgoing t streams)

/-- A call that waits goes on once its context is cancelled. -/
def cancelOpen (m : StreamsMap τ) (t : StreamType) (waitChan : Nat) : StreamsMap τ :=
  m.setOutgoing t ((m.outgoing t).cancelOpen waitChan).1

/-- A call that waits goes on once it received from its channel. -/
def resumeOpen (newStream : StreamID → Bool → τ) (m : StreamsMap τ) (t : StreamType) :
    Except OpenStreamPanic (StreamsMap τ) := do
  let (_, streams, _) ← (m.outgoing t).resumeOpen (newStream · m.supportsResetStreamAt)
  return m.setOutgoing t streams

/-- `GetOrOpenStream` of the bidirectional streams of the peer. -/
def getOrOpenStream (newStream : StreamID → Bool → τ) (m : StreamsMap τ) (id : StreamID) :
    StreamsMap τ :=
  match m.incomingBidiStreams.lookupStream id with
  | .opens => { m with
      incomingBidiStreams :=
        (m.incomingBidiStreams.openStreams (newStream · m.supportsResetStreamAt) id).2 }
  | _ => m

/-- One round of `AcceptStream`. -/
def acceptStream (m : StreamsMap τ) : StreamsMap τ :=
  if m.reset then m else { m with incomingBidiStreams := m.incomingBidiStreams.acceptStream.2.1 }

/-! ## the streams of the maps -/

/-- The map that a stream is in. The unidirectional streams of the peer are in none of them. -/
inductive Place where
  | outgoing (t : StreamType)
  | incoming
  | elsewhere
  deriving DecidableEq, Repr

def place (m : StreamsMap τ) (id : StreamID) : Place :=
  if StreamID.initiatedBy id = m.perspective then .outgoing (StreamID.type id)
  else
    match StreamID.type id with
    | .bidi => .incoming
    | .uni => .elsewhere

def lookup (m : StreamsMap τ) (id : StreamID) : Option τ :=
  match m.place id with
  | .outgoing t => (m.outgoing t).streams.lookup id
  | .incoming => (m.incomingBidiStreams.streams.lookup id).map (·.stream)
  | .elsewhere => none

/-- A stream changes. -/
def update (m : StreamsMap τ) (id : StreamID) (str : τ) : StreamsMap τ :=
  match m.place id with
  | .outgoing t =>
    m.setOutgoing t { m.outgoing t with streams := setValue id str (m.outgoing t).streams }
  | .incoming =>
    match m.incomingBidiStreams.streams.lookup id with
    | none => m
    | some entry => { m with incomingBidiStreams := { m.incomingBidiStreams with
        streams := setValue id { entry with stream := str } m.incomingBidiStreams.streams } }
  | .elsewhere => m

/-- `DeleteStream`; the map is unchanged if it is an error. -/
def deleteStream (m : StreamsMap τ) (id : StreamID) : StreamsMap τ :=
  match m.place id with
  | .outgoing t =>
    match (m.outgoing t).deleteStream id with
    | .error _ => m
    | .ok streams => m.setOutgoing t streams
  | .incoming =>
    match m.incomingBidiStreams.deleteStream id with
    | .error _ => m
    | .ok (streams, _) => { m with incomingBidiStreams := streams }
  | .elsewhere => m

/-! ## frames and parameters of the peer -/

def handleMaxStreamsFrame (m : StreamsMap τ) (f : MaxStreamsFrame) : StreamsMap τ :=
  m.setOutgoing f.type ((m.outgoing f.type).setMaxStream
    (StreamNum.streamID f.maxStreamNum f.type m.perspective)).1

def handleTransportParameters [OutgoingStream τ] (m : StreamsMap τ) (p : TransportParameters) :
    StreamsMap τ :=
  let bidi := m.outgoingBidiStreams.enableResetStreamAt
  let uni := m.outgoingUniStreams.enableResetStreamAt
  let bidi := bidi.updateSendWindow p.initialMaxStreamDataBidiRemote
  let bidi := (bidi.setMaxStream (StreamNum.streamID p.maxBidiStreamNum .bidi m.perspective)).1
  let uni := uni.updateSendWindow p.initialMaxStreamDataUni
  let uni := (uni.setMaxStream (StreamNum.streamID p.maxUniStreamNum .uni m.perspective)).1
  { m with
    supportsResetStreamAt := p.enableResetStreamAt
    outgoingBidiStreams := bidi
    outgoingUniStreams := uni }

/-! ## closing -/

def closeWithError [OutgoingStream τ] (m : StreamsMap τ) : StreamsMap τ :=
  { m with
    outgoingBidiStreams := m.outgoingBidiStreams.closeWithError.1
    outgoingUniStreams := m.outgoingUniStreams.closeWithError.1
    incomingBidiStreams := m.incomingBidiStreams.closeWithError OutgoingStream.closeForShutdown }

/-- `ResetFor0RTT`: when 0-RTT is rejected. -/
def resetFor0RTT [OutgoingStream τ] (m : StreamsMap τ) : StreamsMap τ :=
  { m with reset := true }.closeWithError.initMaps

def useResetMaps (m : StreamsMap τ) : StreamsMap τ := { m with reset := false }

def streams (m : StreamsMap τ) : List τ :=
  values m.outgoingBidiStreams.streams ++ values m.outgoingUniStreams.streams ++
    (values m.incomingBidiStreams.streams).map (·.stream)

end StreamsMap

end MoqQuic.Quic
