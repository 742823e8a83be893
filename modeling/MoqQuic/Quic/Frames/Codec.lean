import MoqQuic.Quic.Frames.Ack
import MoqQuic.Quic.FrameSorter
import MoqQuic.Quic.ReceivedPacketHistory
import MoqQuic.Quic.SendStream
import MoqQuic.Quic.StreamsMap.Incoming
import MoqQuic.Quic.StreamsMap.Outgoing
import MoqQuic.Quicvarint.Slice

/-!
# MoqQuic.Quic.Frames.Codec

The frames of QUIC on the wire: the `*_frame.go` files of `internal/wire`.

Every frame has three functions that are written apart from each other. The parse function
takes a slice from which the frame type has been cut off; the slice is the unread part of a
`Parse` method, and the number of bytes consumed is the difference of its lengths. `append`
adds the frame, with its type, to a slice. `length` says in advance how many bytes that will
be. A varint that does not fit 62 bits makes the last two panic.
-/

namespace MoqQuic

open Parse

namespace Quic

/-! ## errors -/

/-- The errors of the parse functions. -/
inductive FrameError where
  /-- `io.EOF` -/
  | eof
  /-- `io.ErrUnexpectedEOF` -/
  | unexpectedEOF
  /-- "invalid first ACK range" -/
  | invalidFirstAckRange
  /-- "AckFrame: ACK frame contains invalid ACK ranges" -/
  | invalidAckRanges
  /-- "stream data overflows maximum offset" -/
  | streamDataOverflows
  /-- "RESET_STREAM_AT: reliable size can't be larger than final size (%d vs %d)" -/
  | reliableSizeTooLarge (reliableSize finalSize : Nat)
  /-- "token must not be empty" -/
  | tokenEmpty
  /-- "%d exceeds the maximum stream count" -/
  | exceedsMaxStreamCount (n : StreamNum)
  /-- "Retire Prior To value (%d) larger than Sequence Number (%d)" -/
  | retirePriorToTooLarge (ret seq : Nat)
  /-- "invalid zero-length connection ID" -/
  | zeroLengthConnectionID
  /-- "invalid Connection ID length" -/
  | invalidConnectionIDLen
  /-- "unknown frame type" -/
  | unknownFrameType
  /-- "%d not allowed at encryption level %s" -/
  | notAllowedAtEncLevel (frameType : Nat) (encLevel : EncryptionLevel)
  deriving DecidableEq, Repr

end Quic

instance : StreamError Quic.FrameError where
  eof := .eof
  unexpectedEOF := .unexpectedEOF

namespace Quic

/-- The ways in which `Append` fails. -/
inductive AppendError where
  | panic (err : StreamPanic)
  /-- "StreamFrame: attempting to write empty frame without FIN" -/
  | emptyFrameWithoutFin
  /-- "invalid connection ID length: %d" -/
  | invalidConnectionIDLen (connIDLen : Nat)
  deriving DecidableEq, Repr

/-! ## fields -/

/-- The conversion of a signed integer to `uint64`. -/
def uint64 (i : Int) : Nat := (i % 18446744073709551616).toNat

/-- The conversion of an integer to `int64`. -/
def int64 (i : Int) : Int := i.bmod 18446744073709551616

def MaxInt64 : Int := 9223372036854775807

/-- `quicvarint.Append`. -/
def appendVarint (b : Bytes) (i : Nat) : Except AppendError Bytes :=
  match Quicvarint.append b i with
  | none => .error (.panic .varintTooLarge)
  | some b => .ok b

/-- A varint that is written only under a condition. -/
def appendVarintIf (c : Bool) (b : Bytes) (i : Nat) : Except AppendError Bytes :=
  if c then appendVarint b i else .ok b

def replaceUnexpectedEOF : FrameError → FrameError
  | .unexpectedEOF => .eof
  | e => e

/-- `quicvarint.Parse` with its error replaced. -/
def parseVarint : Parse FrameError Unit Nat := mapError replaceUnexpectedEOF Quicvarint.parse

/-- A varint that is there only under a condition. -/
def parseVarintIf (c : Bool) : Parse FrameError Unit Nat := if c then parseVarint else pure 0

/-- The rest of the packet. -/
def takeRest : Parse FrameError Unit Bytes := fun s b => (.ok b, s, [])

/-- Data with its length in front, or up to the end of the packet. -/
def parseData (hasDataLen : Bool) : Parse FrameError Unit Bytes :=
  if hasDataLen then do
    let dataLen ← parseVarint
    takeSlice dataLen
  else takeRest

/-! ## frame types -/

@[match_pattern] def FrameTypePing : Nat := 0x1
@[match_pattern] def FrameTypeAck : Nat := 0x2
@[match_pattern] def FrameTypeAckECN : Nat := 0x3
@[match_pattern] def FrameTypeResetStream : Nat := 0x4
@[match_pattern] def FrameTypeStopSending : Nat := 0x5
@[match_pattern] def FrameTypeCrypto : Nat := 0x6
@[match_pattern] def FrameTypeNewToken : Nat := 0x7
@[match_pattern] def FrameTypeMaxData : Nat := 0x10
@[match_pattern] def FrameTypeMaxStreamData : Nat := 0x11
@[match_pattern] def FrameTypeBidiMaxStreams : Nat := 0x12
@[match_pattern] def FrameTypeUniMaxStreams : Nat := 0x13
@[match_pattern] def FrameTypeDataBlocked : Nat := 0x14
@[match_pattern] def FrameTypeStreamDataBlocked : Nat := 0x15
@[match_pattern] def FrameTypeBidiStreamBlocked : Nat := 0x16
@[match_pattern] def FrameTypeUniStreamBlocked : Nat := 0x17
@[match_pattern] def FrameTypeNewConnectionID : Nat := 0x18
@[match_pattern] def FrameTypeRetireConnectionID : Nat := 0x19
@[match_pattern] def FrameTypePathChallenge : Nat := 0x1a
@[match_pattern] def FrameTypePathResponse : Nat := 0x1b
@[match_pattern] def FrameTypeConnectionClose : Nat := 0x1c
@[match_pattern] def FrameTypeApplicationClose : Nat := 0x1d
@[match_pattern] def FrameTypeHandshakeDone : Nat := 0x1e
@[match_pattern] def FrameTypeResetStreamAt : Nat := 0x24
@[match_pattern] def FrameTypeAckFrequency : Nat := 0xaf
@[match_pattern] def FrameTypeImmediateAck : Nat := 0x1f
@[match_pattern] def FrameTypeDatagramNoLength : Nat := 0x30
@[match_pattern] def FrameTypeDatagramWithLength : Nat := 0x31

/-! ## ACK frames -/

/-- The ACK delay exponent used when sending ACKs. -/
def AckDelayExponent : Nat := 3

def encodeAckDelay (delay : Duration) : Nat :=
  uint64 (delay.tdiv (1000 * (1 <<< AckDelayExponent : Nat)))

/-- The delay of a received ACK frame; it is set to the maximum if it overflows. -/
def decodeAckDelay (delay ackDelayExponent : Nat) : Duration :=
  let delayTime := int64 (int64 (uint64 (delay <<< ackDelayExponent : Nat)) * 1000)
  if delayTime < 0 then MaxInt64 else delayTime

namespace Frames.AckFrame

/-- The loop that reads the ranges after the first one. -/
def parseRanges (smallest : PacketNumber) : Nat → Parse FrameError Unit (List AckRange)
  | 0 => pure []
  | numBlocks + 1 => do
    let gap ← parseVarint
    if smallest < gap + 2 then fail .invalidAckRanges
    else do
      let largest := smallest - gap - 2
      let ackBlock ← parseVarint
      if ackBlock > largest then fail .invalidAckRanges
      else do
        let ranges ← parseRanges (largest - ackBlock) numBlocks
        return ⟨largest - ackBlock, largest⟩ :: ranges

/-- `parseAckFrame`. -/
def parse (typ ackDelayExponent : Nat) : Parse FrameError Unit AckFrame := do
  let largestAcked ← parseVarint
  let delay ← parseVarint
  let numBlocks ← parseVarint
  let ackBlock ← parseVarint
  if ackBlock > largestAcked then fail .invalidFirstAckRange
  else do
    let smallest : PacketNumber := largestAcked - ackBlock
    let ranges ← parseRanges smallest numBlocks
    let frame : AckFrame :=
      { ackRanges := ⟨smallest, largestAcked⟩ :: ranges
        delayTime := decodeAckDelay delay ackDelayExponent }
    if frame.validateAckRanges = false then fail .invalidAckRanges
    else if typ = FrameTypeAckECN then do
      let ect0 ← parseVarint
      let ect1 ← parseVarint
      let ecnce ← parseVarint
      return { frame with ect0, ect1, ecnce }
    else return frame

/-- `encodeAckRange` for the ranges after the first one: gap and length. -/
def encodeAckRanges : List AckRange → List (Nat × Nat)
  | r :: r' :: rs =>
    (uint64 (r.smallest - r'.largest - 2), uint64 (r'.largest - r'.smallest)) ::
      encodeAckRanges (r' :: rs)
  | _ => []

def hasECN (f : AckFrame) : Bool := f.ect0 > 0 || f.ect1 > 0 || f.ecnce > 0

/-- The ranges that are written. -/
def encodedRanges (f : AckFrame) : List (Nat × Nat) :=
  encodeAckRanges (f.ackRanges.take (min f.ackRanges.length MaxNumAckRanges))

def appendRange (b : Bytes) (r : Nat × Nat) : Except AppendError Bytes := do
  let b ← appendVarint b r.1
  appendVarint b r.2

def append (f : AckFrame) (b : Bytes) : Except AppendError Bytes :=
  match f.ackRanges with
  | [] => .error (.panic .sliceBounds)
  | first :: _ => do
    let b := b ++ [UInt8.ofNat (if f.hasECN then FrameTypeAckECN else FrameTypeAck)]
    let b ← appendVarint b (uint64 first.largest)
    let b ← appendVarint b (encodeAckDelay f.delayTime)
    let numRanges := min f.ackRanges.length MaxNumAckRanges
    let b ← appendVarint b (numRanges - 1)
    let b ← appendVarint b (uint64 (first.largest - first.smallest))
    let b ← f.encodedRanges.foldlM appendRange b
    if f.hasECN then do
      let b ← appendVarint b f.ect0
      let b ← appendVarint b f.ect1
      appendVarint b f.ecnce
    else return b

def rangeLen (r : Nat × Nat) : Except StreamPanic Nat :=
  return (← varintLen r.1) + (← varintLen r.2)

/-- The length of the ECN counts. -/
def ecnLen (f : AckFrame) : Except StreamPanic Nat :=
  if f.hasECN then
    return (← varintLen f.ect0) + (← varintLen f.ect1) + (← varintLen f.ecnce)
  else return 0

/-- `Length`; the number of ranges is taken to fit one byte. -/
def length (f : AckFrame) : Except StreamPanic Nat :=
  match f.ackRanges with
  | [] => .error .sliceBounds
  | first :: _ => do
    let length := 1 + (← varintLen (uint64 first.largest)) +
      (← varintLen (encodeAckDelay f.delayTime)) + 1 +
      (← varintLen (uint64 (first.largest - first.smallest)))
    let length ← f.encodedRanges.foldlM (fun length r => return length + (← rangeLen r)) length
    return length + (← f.ecnLen)

end Frames.AckFrame

/-! ## stream frames -/

def streamFrameType (fin hasDataLen hasOffset : Bool) : Nat :=
  0x8 ^^^ (if fin then 0b1 else 0) ^^^ (if hasDataLen then 0b10 else 0) ^^^
    (if hasOffset then 0b100 else 0)

namespace StreamFrame

/-- `ParseStreamFrame`. -/
def parse (typ : Nat) : Parse FrameError Unit StreamFrame := do
  let hasOffset := typ.testBit 2
  let fin := typ.testBit 0
  let hasDataLen := typ.testBit 1
  let streamID ← parseVarint
  let offset ← parseVarintIf hasOffset
  let data ← parseData hasDataLen
  if MinStreamFrameBufferSize ≤ data.length ∧ data.length > MaxPacketBufferSize then fail .eof
  else if offset + data.length > MaxByteCount then fail .streamDataOverflows
  else return { streamID, offset, data, fin, dataLenPresent := hasDataLen }

def append (f : StreamFrame) (b : Bytes) : Except AppendError Bytes :=
  if f.data.length = 0 ∧ f.fin = false then .error .emptyFrameWithoutFin
  else do
    let typ := streamFrameType f.fin f.dataLenPresent (f.offset ≠ 0)
    let b := b ++ [UInt8.ofNat typ]
    let b ← appendVarint b f.streamID
    let b ← appendVarintIf (f.offset ≠ 0) b f.offset
    let b ← appendVarintIf f.dataLenPresent b f.dataLen
    return b ++ f.data

end StreamFrame

namespace ResetStreamFrame

/-- `parseResetStreamFrame`. -/
def parse (isResetStreamAt : Bool) : Parse FrameError Unit ResetStreamFrame := do
  let streamID ← parseVarint
  let errorCode ← parseVarint
  let finalSize ← parseVarint
  let reliableSize ← parseVarintIf isResetStreamAt
  if reliableSize > finalSize then fail (.reliableSizeTooLarge reliableSize finalSize)
  else return { streamID, errorCode, finalSize, reliableSize }

def append (f : ResetStreamFrame) (b : Bytes) : Except AppendError Bytes := do
  let b ← appendVarint b
    (if f.reliableSize = 0 then FrameTypeResetStream else FrameTypeResetStreamAt)
  let b ← appendVarint b f.streamID
  let b ← appendVarint b f.errorCode
  let b ← appendVarint b f.finalSize
  appendVarintIf (f.reliableSize > 0) b f.reliableSize

/-- `Length`; both frame types fit into one byte. -/
def length (f : ResetStreamFrame) : Except StreamPanic Nat := do
  let size ← if f.reliableSize > 0 then varintLen f.reliableSize else .ok 0
  return 1 + size + (← varintLen f.streamID) + (← varintLen f.errorCode) + (← varintLen f.finalSize)

end ResetStreamFrame

structure StopSendingFrame where
  streamID : Nat
  errorCode : Nat
  deriving DecidableEq, Repr

namespace StopSendingFrame

/-- `parseStopSendingFrame`. -/
def parse : Parse FrameError Unit StopSendingFrame := do
  let streamID ← parseVarint
  let errorCode ← parseVarint
  return { streamID, errorCode }

def append (f : StopSendingFrame) (b : Bytes) : Except AppendError Bytes := do
  let b := b ++ [UInt8.ofNat FrameTypeStopSending]
  let b ← appendVarint b f.streamID
  appendVarint b f.errorCode

def length (f : StopSendingFrame) : Except StreamPanic Nat :=
  return 1 + (← varintLen f.streamID) + (← varintLen f.errorCode)

end StopSendingFrame

structure MaxStreamDataFrame where
  streamID : Nat
  maximumStreamData : Nat
  deriving DecidableEq, Repr

namespace MaxStreamDataFrame

/-- `parseMaxStreamDataFrame`. -/
def parse : Parse FrameError Unit MaxStreamDataFrame := do
  let streamID ← parseVarint
  let maximumStreamData ← parseVarint
  return { streamID, maximumStreamData }

def append (f : MaxStreamDataFrame) (b : Bytes) : Except AppendError Bytes := do
  let b := b ++ [UInt8.ofNat FrameTypeMaxStreamData]
  let b ← appendVarint b f.streamID
  appendVarint b f.maximumStreamData

def length (f : MaxStreamDataFrame) : Except StreamPanic Nat :=
  return 1 + (← varintLen f.streamID) + (← varintLen f.maximumStreamData)

end MaxStreamDataFrame

namespace StreamDataBlockedFrame

/-- `parseStreamDataBlockedFrame`. -/
def parse : Parse FrameError Unit StreamDataBlockedFrame := do
  let streamID ← parseVarint
  let maximumStreamData ← parseVarint
  return { streamID, maximumStreamData }

def append (f : StreamDataBlockedFrame) (b : Bytes) : Except AppendError Bytes := do
  let b := b ++ [0x15]
  let b ← appendVarint b f.streamID
  appendVarint b f.maximumStreamData

def length (f : StreamDataBlockedFrame) : Except StreamPanic Nat :=
  return 1 + (← varintLen f.streamID) + (← varintLen f.maximumStreamData)

end StreamDataBlockedFrame

/-! ## limits -/

structure MaxDataFrame where
  maximumData : Nat
  deriving DecidableEq, Repr

namespace MaxDataFrame

/-- `parseMaxDataFrame`. -/
def parse : Parse FrameError Unit MaxDataFrame := do
  let maximumData ← parseVarint
  return { maximumData }

def append (f : MaxDataFrame) (b : Bytes) : Except AppendError Bytes :=
  appendVarint (b ++ [UInt8.ofNat FrameTypeMaxData]) f.maximumData

def length (f : MaxDataFrame) : Except StreamPanic Nat :=
  return 1 + (← varintLen f.maximumData)

end MaxDataFrame

structure DataBlockedFrame where
  maximumData : Nat
  deriving DecidableEq, Repr

namespace DataBlockedFrame

/-- `parseDataBlockedFrame`. -/
def parse : Parse FrameError Unit DataBlockedFrame := do
  let maximumData ← parseVarint
  return { maximumData }

def append (f : DataBlockedFrame) (b : Bytes) : Except AppendError Bytes :=
  appendVarint (b ++ [UInt8.ofNat FrameTypeDataBlocked]) f.maximumData

def length (f : DataBlockedFrame) : Except StreamPanic Nat :=
  return 1 + (← varintLen f.maximumData)

end DataBlockedFrame

/-- The check of a stream count. -/
def parseStreamCount : Parse FrameError Unit StreamNum := do
  let n ← parseVarint
  if (n : StreamNum) > MaxStreamCount then fail (.exceedsMaxStreamCount n)
  else return n

namespace MaxStreamsFrame

/-- `parseMaxStreamsFrame`; it is only called with the two frame types. -/
def parse (typ : Nat) : Parse FrameError Unit MaxStreamsFrame := do
  let maxStreamNum ← parseStreamCount
  return { type := if typ = FrameTypeBidiMaxStreams then .bidi else .uni, maxStreamNum }

def append (f : MaxStreamsFrame) (b : Bytes) : Except AppendError Bytes :=
  match f.type with
  | .bidi => appendVarint (b ++ [UInt8.ofNat FrameTypeBidiMaxStreams]) (uint64 f.maxStreamNum)
  | .uni => appendVarint (b ++ [UInt8.ofNat FrameTypeUniMaxStreams]) (uint64 f.maxStreamNum)

def length (f : MaxStreamsFrame) : Except StreamPanic Nat :=
  return 1 + (← varintLen (uint64 f.maxStreamNum))

end MaxStreamsFrame

namespace StreamsBlockedFrame

/-- `parseStreamsBlockedFrame`; it is only called with the two frame types. -/
def parse (typ : Nat) : Parse FrameError Unit StreamsBlockedFrame := do
  let streamLimit ← parseStreamCount
  return { type := if typ = FrameTypeBidiStreamBlocked then .bidi else .uni, streamLimit }

def append (f : StreamsBlockedFrame) (b : Bytes) : Except AppendError Bytes :=
  match f.type with
  | .bidi => appendVarint (b ++ [UInt8.ofNat FrameTypeBidiStreamBlocked]) (uint64 f.streamLimit)
  | .uni => appendVarint (b ++ [UInt8.ofNat FrameTypeUniStreamBlocked]) (uint64 f.streamLimit)

def length (f : StreamsBlockedFrame) : Except StreamPanic Nat :=
  return 1 + (← varintLen (uint64 f.streamLimit))

end StreamsBlockedFrame

/-! ## connection IDs and paths -/

def MaxConnIDLen : Nat := 20

/-- `protocol.ConnectionID`: at most 20 bytes. -/
structure ConnectionID where
  bytes : Bytes
  length_le : bytes.length ≤ MaxConnIDLen
  deriving DecidableEq, Repr

def ConnectionID.len (c : ConnectionID) : Nat := c.bytes.length

theorem length_take_le_maxConnIDLen {n : Nat} (b : Bytes) (h : n ≤ MaxConnIDLen) :
    (b.take n).length ≤ MaxConnIDLen :=
  (List.length_take_le n b).trans h

/-- `protocol.StatelessResetToken`: 16 bytes. -/
structure StatelessResetToken where
  bytes : Bytes
  length_eq : bytes.length = 16
  deriving DecidableEq, Repr

structure NewConnectionIDFrame where
  sequenceNumber : Nat
  retirePriorTo : Nat
  connectionID : ConnectionID
  statelessResetToken : StatelessResetToken
  deriving DecidableEq, Repr

namespace NewConnectionIDFrame

/-- A connection ID of a length that has been checked. -/
def takeConnectionID (n : Nat) (h : n ≤ MaxConnIDLen) : Parse FrameError Unit ConnectionID :=
  fun s b =>
    if n > b.length then (.error .eof, s, b)
    else (.ok ⟨b.take n, length_take_le_maxConnIDLen b h⟩, s, b.drop n)

def takeToken : Parse FrameError Unit StatelessResetToken := fun s b =>
  if h : b.length < 16 then (.error .eof, s, b)
  else (.ok ⟨b.take 16, List.length_take_of_le (not_lt.mp h)⟩, s, b.drop 16)

/-- `parseNewConnectionIDFrame`. -/
def parse : Parse FrameError Unit NewConnectionIDFrame := do
  let seq ← parseVarint
  let ret ← parseVarint
  if ret > seq then fail (.retirePriorToTooLarge ret seq)
  else do
    let connIDLen ← readByte
    if connIDLen.toNat = 0 then fail .zeroLengthConnectionID
    else if h : connIDLen.toNat > MaxConnIDLen then fail .invalidConnectionIDLen
    else do
      let connectionID ← takeConnectionID connIDLen.toNat (not_lt.mp h)
      let statelessResetToken ← takeToken
      return { sequenceNumber := seq, retirePriorTo := ret, connectionID, statelessResetToken }

def append (f : NewConnectionIDFrame) (b : Bytes) : Except AppendError Bytes := do
  let b := b ++ [UInt8.ofNat FrameTypeNewConnectionID]
  let b ← appendVarint b f.sequenceNumber
  let b ← appendVarint b f.retirePriorTo
  let connIDLen := f.connectionID.len
  if connIDLen > MaxConnIDLen then .error (.invalidConnectionIDLen connIDLen)
  else return b ++ [UInt8.ofNat connIDLen] ++ f.connectionID.bytes ++ f.statelessResetToken.bytes

def length (f : NewConnectionIDFrame) : Except StreamPanic Nat :=
  return 1 + (← varintLen f.sequenceNumber) + (← varintLen f.retirePriorTo) + 1 +
    f.connectionID.len + 16

end NewConnectionIDFrame

structure RetireConnectionIDFrame where
  sequenceNumber : Nat
  deriving DecidableEq, Repr

namespace RetireConnectionIDFrame

/-- `parseRetireConnectionIDFrame`. -/
def parse : Parse FrameError Unit RetireConnectionIDFrame := do
  let sequenceNumber ← parseVarint
  return { sequenceNumber }

def append (f : RetireConnectionIDFrame) (b : Bytes) : Except AppendError Bytes :=
  appendVarint (b ++ [UInt8.ofNat FrameTypeRetireConnectionID]) f.sequenceNumber

def length (f : RetireConnectionIDFrame) : Except StreamPanic Nat :=
  return 1 + (← varintLen f.sequenceNumber)

end RetireConnectionIDFrame

/-- The data of a path probe: 8 bytes. -/
structure PathData where
  bytes : Bytes
  length_eq : bytes.length = 8
  deriving DecidableEq, Repr

def takePathData : Parse FrameError Unit PathData := fun s b =>
  if h : b.length < 8 then (.error .eof, s, b)
  else (.ok ⟨b.take 8, List.length_take_of_le (not_lt.mp h)⟩, s, b.drop 8)

structure PathChallengeFrame where
  data : PathData
  deriving DecidableEq, Repr

namespace PathChallengeFrame

/-- `parsePathChallengeFrame`. -/
def parse : Parse FrameError Unit PathChallengeFrame := do
  let data ← takePathData
  return { data }

def append (f : PathChallengeFrame) (b : Bytes) : Except AppendError Bytes :=
  .ok (b ++ [UInt8.ofNat FrameTypePathChallenge] ++ f.data.bytes)

def length (_ : PathChallengeFrame) : Except StreamPanic Nat := .ok (1 + 8)

end PathChallengeFrame

structure PathResponseFrame where
  data : PathData
  deriving DecidableEq, Repr

namespace PathResponseFrame

/-- `parsePathResponseFrame`. -/
def parse : Parse FrameError Unit PathResponseFrame := do
  let data ← takePathData
  return { data }

def append (f : PathResponseFrame) (b : Bytes) : Except AppendError Bytes :=
  .ok (b ++ [UInt8.ofNat FrameTypePathResponse] ++ f.data.bytes)

def length (_ : PathResponseFrame) : Except StreamPanic Nat := .ok (1 + 8)

end PathResponseFrame

/-! ## byte strings -/

structure CryptoFrame where
  offset : Nat := 0
  data : Bytes := []
  deriving DecidableEq, Repr

namespace CryptoFrame

/-- `parseCryptoFrame`. -/
def parse : Parse FrameError Unit CryptoFrame := do
  let offset ← parseVarint
  let dataLen ← parseVarint
  let data ← takeSlice dataLen
  return { offset, data }

def append (f : CryptoFrame) (b : Bytes) : Except AppendError Bytes := do
  let b := b ++ [UInt8.ofNat FrameTypeCrypto]
  let b ← appendVarint b f.offset
  let b ← appendVarint b f.data.length
  return b ++ f.data

def length (f : CryptoFrame) : Except StreamPanic Nat :=
  return 1 + (← varintLen f.offset) + (← varintLen f.data.length) + f.data.length

end CryptoFrame

structure NewTokenFrame where
  token : Bytes
  deriving DecidableEq, Repr

namespace NewTokenFrame

/-- `parseNewTokenFrame`. -/
def parse : Parse FrameError Unit NewTokenFrame := do
  let tokenLen ← parseVarint
  if tokenLen = 0 then fail .tokenEmpty
  else do
    let token ← takeSlice tokenLen
    return { token }

def append (f : NewTokenFrame) (b : Bytes) : Except AppendError Bytes := do
  let b := b ++ [UInt8.ofNat FrameTypeNewToken]
  let b ← appendVarint b f.token.length
  return b ++ f.token

def length (f : NewTokenFrame) : Except StreamPanic Nat :=
  return 1 + (← varintLen f.token.length) + f.token.length

end NewTokenFrame

structure ConnectionCloseFrame where
  isApplicationError : Bool := false
  errorCode : Nat := 0
  frameType : Nat := 0
  reasonPhrase : Bytes := []
  deriving DecidableEq, Repr

namespace ConnectionCloseFrame

/-- `parseConnectionCloseFrame`. -/
def parse (typ : Nat) : Parse FrameError Unit ConnectionCloseFrame := do
  let isApplicationError := decide (typ = FrameTypeApplicationClose)
  let errorCode ← parseVarint
  let frameType ← parseVarintIf (!isApplicationError)
  let reasonPhraseLen ← parseVarint
  let reasonPhrase ← takeSlice reasonPhraseLen
  return { isApplicationError, errorCode, frameType, reasonPhrase }

def append (f : ConnectionCloseFrame) (b : Bytes) : Except AppendError Bytes := do
  let b := b ++ [UInt8.ofNat
    (if f.isApplicationError then FrameTypeApplicationClose else FrameTypeConnectionClose)]
  let b ← appendVarint b f.errorCode
  let b ← appendVarintIf (!f.isApplicationError) b f.frameType
  let b ← appendVarint b f.reasonPhrase.length
  return b ++ f.reasonPhrase

def length (f : ConnectionCloseFrame) : Except StreamPanic Nat := do
  let length := 1 + (← varintLen f.errorCode) + (← varintLen f.reasonPhrase.length) +
    f.reasonPhrase.length
  if f.isApplicationError = false then return length + (← varintLen f.frameType)
  else return length

end ConnectionCloseFrame

structure DatagramFrame where
  dataLenPresent : Bool := false
  data : Bytes := []
  deriving DecidableEq, Repr

namespace DatagramFrame

/-- `parseDatagramFrame`. -/
def parse (typ : Nat) : Parse FrameError Unit DatagramFrame := do
  let dataLenPresent := typ.testBit 0
  let data ← parseData dataLenPresent
  return { dataLenPresent, data }

def append (f : DatagramFrame) (b : Bytes) : Except AppendError Bytes := do
  let b := b ++ [UInt8.ofNat (0x30 ^^^ if f.dataLenPresent then 0b1 else 0)]
  let b ← appendVarintIf f.dataLenPresent b f.data.length
  return b ++ f.data

def length (f : DatagramFrame) : Except StreamPanic Nat :=
  if f.dataLenPresent then return 1 + f.data.length + (← varintLen f.data.length)
  else .ok (1 + f.data.length)

end DatagramFrame

/-! ## ACK frequency -/

structure AckFrequencyFrame where
  sequenceNumber : Nat
  ackElicitingThreshold : Nat
  requestMaxAckDelay : Duration
  reorderingThreshold : PacketNumber
  deriving DecidableEq, Repr

namespace AckFrequencyFrame

/-- A delay in microseconds; it is set to the maximum if it overflows. -/
def decodeMaxAckDelay (mad : Nat) : Duration :=
  let maxAckDelay := int64 (int64 mad * 1000)
  if maxAckDelay < 0 then MaxInt64 else maxAckDelay

def encodeMaxAckDelay (f : AckFrequencyFrame) : Nat := uint64 (f.requestMaxAckDelay.tdiv 1000)

/-- `parseAckFrequencyFrame`. -/
def parse : Parse FrameError Unit AckFrequencyFrame := do
  let seq ← parseVarint
  let aeth ← parseVarint
  let mad ← parseVarint
  let rth ← parseVarint
  return {
    sequenceNumber := seq
    ackElicitingThreshold := aeth
    requestMaxAckDelay := decodeMaxAckDelay mad
    reorderingThreshold := rth }

def append (f : AckFrequencyFrame) (b : Bytes) : Except AppendError Bytes := do
  let b ← appendVarint b FrameTypeAckFrequency
  let b ← appendVarint b f.sequenceNumber
  let b ← appendVarint b f.ackElicitingThreshold
  let b ← appendVarint b f.encodeMaxAckDelay
  appendVarint b (uint64 f.reorderingThreshold)

def length (f : AckFrequencyFrame) : Except StreamPanic Nat :=
  return 2 + (← varintLen f.sequenceNumber) + (← varintLen f.ackElicitingThreshold) +
    (← varintLen f.encodeMaxAckDelay) + (← varintLen (uint64 f.reorderingThreshold))

end AckFrequencyFrame

/-! ## frames -/

inductive WireFrame where
  | ping
  | ack (f : Frames.AckFrame)
  | resetStream (f : ResetStreamFrame)
  | stopSending (f : StopSendingFrame)
  | crypto (f : CryptoFrame)
  | newToken (f : NewTokenFrame)
  | stream (f : StreamFrame)
  | maxData (f : MaxDataFrame)
  | maxStreamData (f : MaxStreamDataFrame)
  | maxStreams (f : MaxStreamsFrame)
  | dataBlocked (f : DataBlockedFrame)
  | streamDataBlocked (f : StreamDataBlockedFrame)
  | streamsBlocked (f : StreamsBlockedFrame)
  | newConnectionID (f : NewConnectionIDFrame)
  | retireConnectionID (f : RetireConnectionIDFrame)
  | pathChallenge (f : PathChallengeFrame)
  | pathResponse (f : PathResponseFrame)
  | connectionClose (f : ConnectionCloseFrame)
  | handshakeDone
  | datagram (f : DatagramFrame)
  | ackFrequency (f : AckFrequencyFrame)
  | immediateAck
  deriving DecidableEq, Repr

namespace WireFrame

def append : WireFrame → Bytes → Except AppendError Bytes
  | ping, b => .ok (b ++ [UInt8.ofNat FrameTypePing])
  | ack f, b => f.append b
  | resetStream f, b => f.append b
  | stopSending f, b => f.append b
  | crypto f, b => f.append b
  | newToken f, b => f.append b
  | stream f, b => f.append b
  | maxData f, b => f.append b
  | maxStreamData f, b => f.append b
  | maxStreams f, b => f.append b
  | dataBlocked f, b => f.append b
  | streamDataBlocked f, b => f.append b
  | streamsBlocked f, b => f.append b
  | newConnectionID f, b => f.append b
  | retireConnectionID f, b => f.append b
  | pathChallenge f, b => f.append b
  | pathResponse f, b => f.append b
  | connectionClose f, b => f.append b
  | handshakeDone, b => .ok (b ++ [UInt8.ofNat FrameTypeHandshakeDone])
  | datagram f, b => f.append b
  | ackFrequency f, b => f.append b
  | immediateAck, b => appendVarint b FrameTypeImmediateAck

def length : WireFrame → Except StreamPanic Nat
  | ping => .ok 1
  | ack f => f.length
  | resetStream f => f.length
  | stopSending f => f.length
  | crypto f => f.length
  | newToken f => f.length
  | stream f => f.length
  | maxData f => f.length
  | maxStreamData f => f.length
  | maxStreams f => f.length
  | dataBlocked f => f.length
  | streamDataBlocked f => f.length
  | streamsBlocked f => f.length
  | newConnectionID f => f.length
  | retireConnectionID f => f.length
  | pathChallenge f => f.length
  | pathResponse f => f.length
  | connectionClose f => f.length
  | handshakeDone => .ok 1
  | datagram f => f.length
  | ackFrequency f => f.length
  | immediateAck => varintLen FrameTypeImmediateAck

end WireFrame

end Quic

end MoqQuic
