import MoqQuic.Quic.HeaderProtection

/-!
# MoqQuic.Quic.Packer

How the packer writes a packet: the part of `packet_packer.go` below the choice of the frames, with
the packet buffer of `buffer_pool.go`.

* A packet is written at the end of the buffer: the header, the ACK frame, the padding, the other
  frames. The payload is then sealed in place and the header is protected. A slice that would end
  beyond the capacity of the buffer is a panic.
* The random order of the frames and the random gaps of the packet number generator are arguments.
* The handlers of the frames don't change what is written; they are left out.
-/

namespace MoqQuic.Quic

/-! ## frames and packets -/

def isFrameAckEliciting : WireFrame → Bool
  | .ack _ => false
  | .connectionClose _ => false
  | _ => true

def hasAckElicitingFrames (fs : List WireFrame) : Bool := fs.any isFrameAckEliciting

structure Payload where
  streamFrames : List StreamFrame := []
  frames : List WireFrame := []
  ack : Option Frames.AckFrame := none
  length : Nat := 0
  deriving DecidableEq, Repr

structure LongHeaderPacket where
  header : ExtendedHeader
  ack : Option Frames.AckFrame
  frames : List WireFrame
  streamFrames : List StreamFrame
  length : Nat
  deriving DecidableEq, Repr

structure ShortHeaderPacket where
  packetNumber : PacketNumber
  frames : List WireFrame
  streamFrames : List StreamFrame
  ack : Option Frames.AckFrame
  length : Nat
  isPathMTUProbePacket : Bool
  destConnID : ConnectionID
  packetNumberLen : PacketNumberLen
  keyPhase : KeyPhaseBit
  deriving DecidableEq, Repr

/-- The ways in which packing fails. -/
inductive PackError where
  | panic (err : StreamPanic)
  | keys (err : KeysError)
  | header (err : HeaderAppendError)
  | frame (err : AppendError)
  /-- "PacketPacker BUG: payload size inconsistent (expected %d, got %d bytes)" -/
  | payloadSizeInconsistent (expected got : Nat)
  /-- "PacketPacker BUG: packet too large (%d bytes, allowed %d bytes)" -/
  | packetTooLarge (size allowed : Nat)
  /-- "packetPacker BUG: Peeked and Popped packet numbers do not match: expected %d, got %d" -/
  | packetNumberMismatch (expected got : PacketNumber)
  /-- `errNothingToPack` -/
  | nothingToPack
  deriving DecidableEq, Repr

/-- The order in which `rand.Shuffle` puts the frames. -/
structure Shuffle where
  shuffle : List WireFrame → List WireFrame
  perm : ∀ frames, (shuffle frames).Perm frames

/-- The payload with the frames in the order in which they are written. -/
def Payload.shuffled (pl : Payload) (rand : Shuffle) : Payload :=
  if pl.frames.length > 1 then { pl with frames := rand.shuffle pl.frames } else pl

/-! ## the packet buffer -/

/-- `packetBuffer`; the reference count is left out. -/
structure PacketBuffer where
  data : Bytes
  cap : Nat
  length_le : data.length ≤ cap

namespace PacketBuffer

def MaxLargePacketBufferSize : Nat := 20 * 1024

def getPacketBuffer : PacketBuffer where
  data := []
  cap := MaxPacketBufferSize
  length_le := Nat.zero_le _

def getLargePacketBuffer : PacketBuffer where
  data := []
  cap := MaxLargePacketBufferSize
  length_le := Nat.zero_le _

/-- `buffer.Data[:len(buffer.Data)+len(raw)]`, where `raw` has been written at the end of the
data. -/
def extend (b : PacketBuffer) (raw : Bytes) : Except PackError PacketBuffer :=
  if h : (b.data ++ raw).length ≤ b.cap then .ok { data := b.data ++ raw, cap := b.cap, length_le := h }
  else .error (.panic .sliceBounds)

end PacketBuffer

/-! ## packet numbers -/

/-- What `PeekPacketNumber` and `PopPacketNumber` use of a packet number space. -/
structure NumberSpace where
  pns : PacketNumberGenerator
  largestAcked : PacketNumber := InvalidPacketNumber
  deriving DecidableEq, Repr

/-- `packetNumberManager`; a space that has been dropped is not asked for a number. -/
structure PacketNumberManager where
  initial : NumberSpace
  handshake : NumberSpace
  appData : NumberSpace
  deriving DecidableEq, Repr

namespace PacketNumberManager

/-- `getPacketNumberSpace`: 0-RTT and 1-RTT packets are numbered together. -/
def space (m : PacketNumberManager) : EncryptionLevel → NumberSpace
  | .initial => m.initial
  | .handshake => m.handshake
  | .zeroRTT | .oneRTT => m.appData

def setSpace (m : PacketNumberManager) (s : NumberSpace) : EncryptionLevel → PacketNumberManager
  | .initial => { m with initial := s }
  | .handshake => { m with handshake := s }
  | .zeroRTT | .oneRTT => { m with appData := s }

def peekPacketNumber (m : PacketNumberManager) (level : EncryptionLevel) :
    PacketNumber × PacketNumberLen :=
  let pn := (m.space level).pns.peek
  (pn, packetNumberLengthForHeader pn (m.space level).largestAcked)

def popPacketNumber (m : PacketNumberManager) (level : EncryptionLevel) (draw : Nat) :
    PacketNumber × PacketNumberManager :=
  let (_, pn, pns) := (m.space level).pns.pop draw
  (pn, m.setSpace { m.space level with pns } level)

end PacketNumberManager

/-! ## the packer -/

structure SealingManager where
  getInitialSealer : Except KeysError LongHeaderSealer
  getHandshakeSealer : Except KeysError LongHeaderSealer
  get0RTTSealer : Except KeysError LongHeaderSealer
  get1RTTSealer : Except KeysError ShortHeaderSealer

/-- `packetPacker`, without the sources of the frames. -/
structure PacketPacker where
  srcConnID : ConnectionID
  getDestConnID : ConnectionID
  perspective : Perspective
  cryptoSetup : SealingManager
  token : Bytes := []
  pnManager : PacketNumberManager

namespace PacketPacker

/-- The padding of a tiny payload: the sample needs four bytes from the start of the packet number
on. -/
def minPadding (pnLen : PacketNumberLen) (pl : Payload) : Nat :=
  if pl.length < 4 - pnLen then 4 - pnLen - pl.length else 0

def longHeaderPacketLength (hdr : ExtendedHeader) (pl : Payload) : Except StreamPanic Nat :=
  return (← hdr.getLength) + pl.length + minPadding hdr.packetNumberLen pl

def shortHeaderPacketLength (connID : ConnectionID) (pnLen : PacketNumberLen) (pl : Payload) : Nat :=
  shortHeaderLen connID pnLen + pl.length + minPadding pnLen pl

def initialPaddingLen (perspective : Perspective) (frames : List WireFrame)
    (currentSize maxPacketSize : Nat) : Nat :=
  -- For the server, only ack-eliciting Initial packets need to be padded.
  if perspective = .server ∧ hasAckElicitingFrames frames = false then 0
  else if currentSize ≥ maxPacketSize then 0
  else maxPacketSize - currentSize

def packetType : EncryptionLevel → Option PacketType
  | .initial => some .initial
  | .handshake => some .handshake
  | .zeroRTT => some .zeroRTT
  | .oneRTT => none

def getLongHeader (p : PacketPacker) (level : EncryptionLevel) (v : Version) : ExtendedHeader :=
  let (pn, pnLen) := p.pnManager.peekPacketNumber level
  { packetNumber := pn
    packetNumberLen := pnLen
    version := v
    srcConnectionID := p.srcConnID
    destConnectionID := p.getDestConnID
    type := packetType level
    token := if level = .initial then p.token else [] }

/-- The frames one after the other. -/
def appendFrames (raw : Bytes) (frames : List WireFrame) : Except AppendError Bytes :=
  frames.foldlM (fun raw f => f.append raw) raw

/-- The ACK frame, if there is one. -/
def appendAck (raw : Bytes) : Option Frames.AckFrame → Except AppendError Bytes
  | none => .ok raw
  | some ack => ack.append raw

/-- The frames of `appendPacketPayload`. -/
def appendPayloadFrames (raw : Bytes) (pl : Payload) (paddingLen : Nat) :
    Except AppendError Bytes := do
  let raw ← appendAck raw pl.ack
  let raw := raw ++ List.replicate paddingLen 0
  let raw ← appendFrames raw pl.frames
  pl.streamFrames.foldlM (fun raw f => f.append raw) raw

/-- `appendPacketPayload`, after the shuffle. -/
def appendPacketPayload (raw : Bytes) (pl : Payload) (paddingLen : Nat) :
    Except PackError Bytes := do
  let raw' ← (appendPayloadFrames raw pl paddingLen).mapError .frame
  let payloadSize := raw'.length - raw.length - paddingLen
  if payloadSize ≠ pl.length then .error (.payloadSizeInconsistent pl.length payloadSize)
  else return raw'

def encryptPacket (raw : Bytes) (sealer : Sealer) (pn : PacketNumber) (payloadOffset pnLen : Nat) :
    Bytes :=
  let raw := raw.take payloadOffset ++
    sealer.sealed (raw.drop payloadOffset) pn (raw.take payloadOffset)
  sealer.hp.applyAt raw (payloadOffset - pnLen) pnLen

/-- The number that has been popped must be the one that was peeked. -/
def checkPopped (expected got : PacketNumber) : Except PackError Unit :=
  if got ≠ expected then .error (.packetNumberMismatch expected got) else .ok ()

def appendLongHeaderPacket (rand : Shuffle) (pnManager : PacketNumberManager)
    (buffer : PacketBuffer) (header : ExtendedHeader) (pl : Payload) (padding : Nat)
    (level : EncryptionLevel) (sealer : Sealer) (v : Version) (draw : Nat) :
    Except PackError (LongHeaderPacket × PacketBuffer × PacketNumberManager) := do
  let pnLen := header.packetNumberLen
  let paddingLen := minPadding pnLen pl + padding
  let header := { header with length := pnLen + sealerOverhead + pl.length + paddingLen }
  let raw ← (header.append [] v).mapError .header
  let payloadOffset := raw.length
  let pl := pl.shuffled rand
  let raw ← appendPacketPayload raw pl paddingLen
  let raw := encryptPacket raw sealer header.packetNumber payloadOffset pnLen
  let buffer ← buffer.extend raw
  let (pn, pnManager) := pnManager.popPacketNumber level draw
  checkPopped pn header.packetNumber
  let { ack, frames, streamFrames, .. } := pl
  return ({ header, ack, frames, streamFrames, length := raw.length }, buffer, pnManager)

def appendShortHeaderPacket (rand : Shuffle) (pnManager : PacketNumberManager)
    (buffer : PacketBuffer) (connID : ConnectionID) (pn : PacketNumber) (pnLen : PacketNumberLen)
    (kp : KeyPhaseBit) (pl : Payload) (padding maxPacketSize : Nat) (sealer : Sealer)
    (isMTUProbePacket : Bool) (draw : Nat) :
    Except PackError (ShortHeaderPacket × PacketBuffer × PacketNumberManager) := do
  let paddingLen := minPadding pnLen pl + padding
  let raw ← (appendShortHeader [] connID pn pnLen kp).mapError .header
  let payloadOffset := raw.length
  let pl := pl.shuffled rand
  let raw ← appendPacketPayload raw pl paddingLen
  let size := raw.length + sealerOverhead
  if isMTUProbePacket = false ∧ size > maxPacketSize then .error (.packetTooLarge size maxPacketSize)
  else do
    let raw := encryptPacket raw sealer pn payloadOffset pnLen
    let buffer ← buffer.extend raw
    let (newPN, pnManager) := pnManager.popPacketNumber .oneRTT draw
    checkPopped pn newPN
    let { ack, frames, streamFrames, .. } := pl
    return ({
      packetNumber := pn, packetNumberLen := pnLen, keyPhase := kp, streamFrames, frames, ack,
      length := raw.length, destConnID := connID, isPathMTUProbePacket := isMTUProbePacket },
      buffer, pnManager)

end PacketPacker

end MoqQuic.Quic
