import MoqQuic.Quic.SentPacketHandler

/-!
# MoqQuic.Quic.StreamID

Stream IDs and stream numbers: `internal/protocol/stream.go`.

The two low bits of a stream ID say who opened the stream and whether it is bidirectional, so the
IDs of one kind go up in steps of 4.
-/

namespace MoqQuic.Quic

inductive StreamType where
  | uni
  | bidi
  deriving DecidableEq, Repr

abbrev StreamID : Type := Int

abbrev StreamNum : Type := Int

/-- The first valid stream ID is 0. -/
def InvalidStreamID : StreamID := -1

def InvalidStreamNum : StreamNum := -1

/-- The maximum stream count that can be sent in MAX_STREAMS frames. -/
def MaxStreamCount : StreamNum := 1 <<< 60

/-- The maximum stream ID, `quicvarint.Max`. -/
def MaxStreamID : StreamID := 4611686018427387903

def Perspective.opposite : Perspective → Perspective
  | .server => .client
  | .client => .server

/-- The first stream of a kind that a side opens. -/
def firstOutgoingStream : StreamType → Perspective → StreamID
  | .bidi, .client => 0
  | .bidi, .server => 1
  | .uni, .client => 2
  | .uni, .server => 3

/-- The first stream of a kind that a side accepts. -/
def firstIncomingStream (stype : StreamType) (pers : Perspective) : StreamID :=
  firstOutgoingStream stype pers.opposite

def StreamNum.streamID (s : StreamNum) (stype : StreamType) (pers : Perspective) : StreamID :=
  if s = 0 then InvalidStreamID else firstOutgoingStream stype pers + 4 * (s - 1)

namespace StreamID

def initiatedBy (s : StreamID) : Perspective := if s.tmod 2 = 0 then .client else .server

def type (s : StreamID) : StreamType := if s.tmod 4 ≥ 2 then .uni else .bidi

/-- `StreamID.StreamNum`: how many streams in total are up to this one. -/
def streamNum (s : StreamID) : StreamNum := s.tdiv 4 + 1

end StreamID

end MoqQuic.Quic
