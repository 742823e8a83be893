import MoqQuic.Quic.StreamsMap.Values

/-!
# MoqQuic.Quic.StreamsMap.Incoming

The streams of one type that the peer opens: `streams_map_incoming.go`.

Each definition is one section of the source under the mutex of the map. `GetOrOpenStream` has two of
them: it looks at the map with a read lock, and takes the write lock to open streams. `AcceptStream`
has one each time it comes around its loop. The channel `newStreamChan` holds at most one signal.
-/

namespace MoqQuic.Quic

/-- The errors of the map. -/
inductive IncomingStreamError where
  /-- a STREAM_LIMIT_ERROR: the peer tried to open a stream above the limit -/
  | streamLimit (id maxStream : StreamID)
  /-- tried to delete an unknown incoming stream -/
  | unknownStream (id : StreamID)
  /-- tried to delete an incoming stream multiple times -/
  | multipleTimes (id : StreamID)
  deriving DecidableEq, Repr

/-- A stream that is deleted before it was accepted stays in the map until it is. -/
structure IncomingStreamEntry (τ : Type) where
  stream : τ
  shouldDelete : Bool := false
  deriving DecidableEq, Repr

structure MaxStreamsFrame where
  type : StreamType
  maxStreamNum : StreamNum
  deriving DecidableEq, Repr

structure IncomingStreamsMap (τ : Type) where
  /-- there is a signal in the channel -/
  newStreamChan : Bool := false
  streamType : StreamType
  streams : AList (fun _ : StreamID => IncomingStreamEntry τ) := ∅
  /-- the next stream that will be returned by `AcceptStream` -/
  nextStreamToAccept : StreamID
  /-- the stream after the highest one that the peer opened -/
  nextStreamToOpen : StreamID
  /-- the highest stream that the peer is allowed to open -/
  maxStream : StreamID
  maxNumStreams : Nat
  /-- an error was set -/
  closeErr : Bool := false

def newIncomingStreamsMap {τ : Type} (streamType : StreamType) (maxStreams : Nat)
    (pers : Perspective) : IncomingStreamsMap τ where
  streamType := streamType
  maxStream := StreamNum.streamID maxStreams streamType pers.opposite
  maxNumStreams := maxStreams
  nextStreamToOpen := firstIncomingStream streamType pers
  nextStreamToAccept := firstIncomingStream streamType pers

namespace IncomingStreamsMap

variable {τ : Type}

/-- `deleteStream`: perhaps an error, and the MAX_STREAMS frame that is queued. -/
def deleteStream (m : IncomingStreamsMap τ) (id : StreamID) :
    Except IncomingStreamError (IncomingStreamsMap τ × Option MaxStreamsFrame) :=
  match m.streams.lookup id with
  | none => .error (.unknownStream id)
  | some entry =>
    -- don't delete this stream yet, if it was not yet accepted
    if id ≥ m.nextStreamToAccept then
      if entry.shouldDelete then .error (.multipleTimes id)
      else .ok ({ m with
        streams := m.streams.insert id { entry with shouldDelete := true } }, none)
    else
      let streams := m.streams.erase id
      let m := { m with streams := streams }
      -- give the peer the option to open a new stream
      if m.maxNumStreams > streams.keys.length then
        let maxStream :=
          m.nextStreamToOpen + 4 * ((m.maxNumStreams - streams.keys.length - 1 : Nat) : Int)
        -- never send a value larger than the maximum value for a stream number
        if maxStream ≤ MaxStreamID then
          .ok ({ m with maxStream := maxStream },
            some { type := m.streamType, maxStreamNum := StreamID.streamNum maxStream })
        else .ok (m, none)
      else .ok (m, none)

/-- What a round of `AcceptStream` comes to. -/
inductive Accepted (τ : Type) where
  | closed
  | waits
  | failed (err : IncomingStreamError)
  | returned (id : StreamID) (stream : τ)
  deriving DecidableEq, Repr

/-- One round of the loop of `AcceptStream`. -/
def acceptStream (m : IncomingStreamsMap τ) :
    Accepted τ × IncomingStreamsMap τ × Option MaxStreamsFrame :=
  let id := m.nextStreamToAccept
  if m.closeErr then (.closed, m, none)
  else
    match m.streams.lookup id with
    | none => (.waits, m, none)
    | some entry =>
      let m := { m with nextStreamToAccept := m.nextStreamToAccept + 4 }
      -- if this stream was completed before being accepted, we can delete it now
      if entry.shouldDelete then
        match m.deleteStream id with
        | .error err => (.failed err, m, none)
        | .ok (m, frame) => (.returned id entry.stream, m, frame)
      else (.returned id entry.stream, m, none)

/-- What the first part of `GetOrOpenStream` comes to. -/
inductive Looked (τ : Type) where
  | failed (err : IncomingStreamError)
  | returned (stream : Option τ)
  /-- the stream has to be opened -/
  | opens
  deriving DecidableEq, Repr

/-- The part of `GetOrOpenStream` with the read lock. -/
def lookupStream (m : IncomingStreamsMap τ) (id : StreamID) : Looked τ :=
  if id > m.maxStream then .failed (.streamLimit id m.maxStream)
  -- this stream exists in the map, or it was already closed
  else if id < m.nextStreamToOpen then
    match m.streams.lookup id with
    -- a stream that is just waiting to be accepted is not returned
    | some entry => .returned (if entry.shouldDelete then none else some entry.stream)
    | none => .returned none
  else .opens

/-- One round of the loop that opens streams. -/
def openNext (newStream : StreamID → τ) (m : IncomingStreamsMap τ) (newNum : StreamID) :
    IncomingStreamsMap τ :=
  { m with
    streams := m.streams.insert newNum { stream := newStream newNum }
    newStreamChan := true }

/-- `n` rounds of the loop. -/
def openFrom (newStream : StreamID → τ) (m : IncomingStreamsMap τ) (newNum : StreamID) :
    Nat → IncomingStreamsMap τ
  | 0 => m
  | n + 1 => openFrom newStream (openNext newStream m newNum) (newNum + 4) n

/-- The number of rounds of the loop: from `newNum` to `id` in steps of 4. -/
def rounds (newNum id : StreamID) : Nat := if newNum ≤ id then ((id - newNum) / 4).toNat + 1 else 0

/-- The part of `GetOrOpenStream` with the write lock. -/
def openStreams (newStream : StreamID → τ) (m : IncomingStreamsMap τ) (id : StreamID) :
    Option τ × IncomingStreamsMap τ :=
  let m := { openFrom newStream m m.nextStreamToOpen (rounds m.nextStreamToOpen id) with
    nextStreamToOpen := id + 4 }
  ((m.streams.lookup id).map (·.stream), m)

def closeWithError (closeForShutdown : τ → τ) (m : IncomingStreamsMap τ) : IncomingStreamsMap τ :=
  { m with
    closeErr := true
    streams := mapValues (fun entry => { entry with stream := closeForShutdown entry.stream })
      m.streams }

end IncomingStreamsMap

end MoqQuic.Quic
