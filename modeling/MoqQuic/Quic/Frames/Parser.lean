import MoqQuic.Quic.Frames.Codec

/-!
# MoqQuic.Quic.Frames.Parser

The parser for the frames of a packet: `internal/wire/frame_parser.go` and `frame_type.go`.

`ParseType` skips PADDING and checks that the frame type is known and allowed at the encryption
level of the packet; the frame is then parsed by the function for its type, as in
`Conn.handleFrames`. Their errors are transport errors with the code FRAME_ENCODING_ERROR.
-/

namespace MoqQuic

open Parse

namespace Quic

/-! ## frame types -/

def isStreamFrameType (t : Nat) : Bool := t ≥ 0x8 && t ≤ 0xf

def isValidRFC9000 (t : Nat) : Bool := t ≤ 0x1e

def isAckFrameType (t : Nat) : Bool := t = FrameTypeAck || t = FrameTypeAckECN

def isDatagramFrameType (t : Nat) : Bool :=
  t = FrameTypeDatagramNoLength || t = FrameTypeDatagramWithLength

def isAllowedAtEncLevel (t : Nat) : EncryptionLevel → Bool
  | .initial | .handshake =>
    t = FrameTypeCrypto || t = FrameTypeAck || t = FrameTypeAckECN ||
      t = FrameTypeConnectionClose || t = FrameTypePing
  | .zeroRTT =>
    !(t = FrameTypeCrypto || t = FrameTypeAck || t = FrameTypeAckECN ||
      t = FrameTypeConnectionClose || t = FrameTypeNewToken || t = FrameTypePathResponse ||
      t = FrameTypeRetireConnectionID)
  | .oneRTT => true

/-! ## the parser -/

inductive ParserError where
  /-- `io.EOF`: there is no frame -/
  | eof
  /-- `qerr.TransportError` with the code FRAME_ENCODING_ERROR -/
  | transport (frameType : Nat) (err : FrameError)
  deriving DecidableEq, Repr

structure FrameParser where
  ackDelayExponent : Nat := 0
  supportsDatagrams : Bool
  supportsResetStreamAt : Bool
  supportsAckFrequency : Bool
  deriving DecidableEq, Repr

def DefaultAckDelayExponent : Nat := 3

namespace FrameParser

/-- The check of the frame type in `ParseType`. -/
def valid (p : FrameParser) (ft : Nat) : Bool :=
  isValidRFC9000 ft || (p.supportsDatagrams && isDatagramFrameType ft) ||
    (p.supportsResetStreamAt && ft = FrameTypeResetStreamAt) ||
    (p.supportsAckFrequency && (ft = FrameTypeAckFrequency || ft = FrameTypeImmediateAck))

/-- The checks of `ParseType` on the first type that is not PADDING. -/
def checkType (p : FrameParser) (encLevel : EncryptionLevel) (typ : Nat) :
    Parse ParserError Unit Nat :=
  if p.valid typ = false then fail (.transport typ .unknownFrameType)
  else if isAllowedAtEncLevel typ encLevel = false then
    fail (.transport typ (.notAllowedAtEncLevel typ encLevel))
  else return typ

/-- The loop of `ParseType`; a round takes at least one byte, so that there are no more rounds
than bytes. -/
def parseTypeLoop (p : FrameParser) (encLevel : EncryptionLevel) :
    Nat → Parse ParserError Unit Nat
  | 0 => fail .eof
  | n + 1 => fun s b =>
    if b.length = 0 then (.error .eof, s, b)
    else
      (do
        let typ ← mapError (.transport 0) Quicvarint.parse
        -- skip PADDING frames
        if typ = 0x0 then p.parseTypeLoop encLevel n
        else p.checkType encLevel typ : Parse ParserError Unit Nat) s b

def parseType (p : FrameParser) (encLevel : EncryptionLevel) : Parse ParserError Unit Nat :=
  fun s b => p.parseTypeLoop encLevel b.length s b

/-- The exponent that `ParseAckFrame` uses. -/
def exponentAt (p : FrameParser) (encLevel : EncryptionLevel) : Nat :=
  if encLevel ≠ .oneRTT then DefaultAckDelayExponent else p.ackDelayExponent

/-- `ParseLessCommonFrame`, without the wrapping of the error. -/
def parseLessCommonFrame (frameType : Nat) : Parse FrameError Unit WireFrame :=
  match frameType with
  | FrameTypePing => return .ping
  | FrameTypeResetStream => return .resetStream (← ResetStreamFrame.parse false)
  | FrameTypeStopSending => return .stopSending (← StopSendingFrame.parse)
  | FrameTypeCrypto => return .crypto (← CryptoFrame.parse)
  | FrameTypeNewToken => return .newToken (← NewTokenFrame.parse)
  | FrameTypeMaxData => return .maxData (← MaxDataFrame.parse)
  | FrameTypeMaxStreamData => return .maxStreamData (← MaxStreamDataFrame.parse)
  | FrameTypeBidiMaxStreams => return .maxStreams (← MaxStreamsFrame.parse frameType)
  | FrameTypeUniMaxStreams => return .maxStreams (← MaxStreamsFrame.parse frameType)
  | FrameTypeDataBlocked => return .dataBlocked (← DataBlockedFrame.parse)
  | FrameTypeStreamDataBlocked => return .streamDataBlocked (← StreamDataBlockedFrame.parse)
  | FrameTypeBidiStreamBlocked => return .streamsBlocked (← StreamsBlockedFrame.parse frameType)
  | FrameTypeUniStreamBlocked => return .streamsBlocked (← StreamsBlockedFrame.parse frameType)
  | FrameTypeNewConnectionID => return .newConnectionID (← NewConnectionIDFrame.parse)
  | FrameTypeRetireConnectionID => return .retireConnectionID (← RetireConnectionIDFrame.parse)
  | FrameTypePathChallenge => return .pathChallenge (← PathChallengeFrame.parse)
  | FrameTypePathResponse => return .pathResponse (← PathResponseFrame.parse)
  | FrameTypeConnectionClose => return .connectionClose (← ConnectionCloseFrame.parse frameType)
  | FrameTypeApplicationClose => return .connectionClose (← ConnectionCloseFrame.parse frameType)
  | FrameTypeHandshakeDone => return .handshakeDone
  | FrameTypeResetStreamAt => return .resetStream (← ResetStreamFrame.parse true)
  | FrameTypeAckFrequency => return .ackFrequency (← AckFrequencyFrame.parse)
  | FrameTypeImmediateAck => return .immediateAck
  | _ => fail .unknownFrameType

/-- The parser that `handleFrames` picks for a frame type. -/
def parseFrame (p : FrameParser) (encLevel : EncryptionLevel) (frameType : Nat) :
    Parse FrameError Unit WireFrame :=
  if isStreamFrameType frameType then return .stream (← StreamFrame.parse frameType)
  else if isAckFrameType frameType then
    return .ack (← Frames.AckFrame.parse frameType (p.exponentAt encLevel))
  else if isDatagramFrameType frameType then return .datagram (← DatagramFrame.parse frameType)
  else parseLessCommonFrame frameType

/-- `ParseType`, followed by the parser for the type. -/
def parseNext (p : FrameParser) (encLevel : EncryptionLevel) : Parse ParserError Unit WireFrame := do
  let frameType ← p.parseType encLevel
  mapError (.transport frameType) (p.parseFrame encLevel frameType)

/-- The next frame of a packet and the number of bytes that it takes. -/
def parse (p : FrameParser) (encLevel : EncryptionLevel) (b : Bytes) :
    Except ParserError (WireFrame × Nat) :=
  match p.parseNext encLevel () b with
  | (.ok f, _, rest) => .ok (f, b.length - rest.length)
  | (.error e, _, _) => .error e

end FrameParser

end Quic

end MoqQuic
