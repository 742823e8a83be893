import MoqQuic.Quic.HeaderProtection

/-!
# MoqQuic.Quic.Unpacker

The unpacker: `packet_unpacker.go`.

The header protection is removed in place, as if the packet number had four bytes. The header says
how long it is, and the bytes behind it are restored before the packet is opened. A packet with
invalid reserved bits is opened all the same, and only then refused.
-/

namespace MoqQuic.Quic

inductive UnpackError where
  | keys (err : KeysError)
  /-- `headerParseError` -/
  | headerParse (err : HeaderError)
  /-- "packet too small, expected at least 20 bytes after the header, got %d" -/
  | packetTooSmall (got : Int)
  /-- `wire.ErrInvalidReservedBits` -/
  | invalidReservedBits
  /-- the error of the AEAD -/
  | aead (err : OpenError)
  /-- "unknown packet type: %s" -/
  | unknownPacketType (type : Option PacketType)
  /-- a `PROTOCOL_VIOLATION`: "empty packet" -/
  | emptyPacket
  deriving DecidableEq, Repr

structure UnpackedPacket where
  hdr : ExtendedHeader
  encryptionLevel : EncryptionLevel
  data : Bytes
  deriving DecidableEq, Repr

/-- What `UnpackShortHeader` returns. -/
structure UnpackedShortHeader where
  packetNumber : PacketNumber
  packetNumberLen : PacketNumberLen
  keyPhase : KeyPhaseBit
  data : Bytes
  deriving DecidableEq, Repr

/-- `packetUnpacker`, with the openers of `cs`. -/
structure PacketUnpacker where
  getInitialOpener : Except KeysError LongHeaderOpener
  getHandshakeOpener : Except KeysError LongHeaderOpener
  get0RTTOpener : Except KeysError LongHeaderOpener
  get1RTTOpener : Except KeysError ShortHeaderOpener
  shortHdrConnIDLen : Nat

namespace PacketUnpacker

/-- The bytes between the packet number and the sample are replaced by those of the packet as it was
received. -/
def restorePNBytes (received data : Bytes) (hdrLen pnLen : Nat) : Bytes :=
  if pnLen ≠ PacketNumberLen4 then
    data.take (hdrLen + pnLen) ++ ((received.drop hdrLen).take 4).drop pnLen ++ data.drop (hdrLen + 4)
  else data

/-- `unpackLongHeader`: the header, whether the reserved bits are valid, and the data without header
protection. -/
def unpackLongHeader (hp : HeaderProtector) (hdr : Header) (data : Bytes) :
    Except UnpackError (ExtendedHeader × Bool × Bytes) :=
  let hdrLen := hdr.parsedLen
  if data.length < hdrLen + 4 + 16 then .error (.packetTooSmall (data.length - hdrLen))
  else
    let decrypted := hp.applyAt data hdrLen 4
    match hdr.parseExtended decrypted with
    | .error e => .error (.headerParse e)
    | .ok (extHdr, valid) =>
      .ok (extHdr, valid, restorePNBytes data decrypted hdrLen extHdr.packetNumberLen)

def unpackLongHeaderPacket (opener : LongHeaderOpener) (hdr : Header) (data : Bytes) :
    Except UnpackError (ExtendedHeader × Bytes) := do
  let (extHdr, valid, data) ← unpackLongHeader opener.hp hdr data
  let extHdrLen := extHdr.parsedExtLen
  let extHdr := { extHdr with
    packetNumber := opener.decodePacketNumber extHdr.packetNumber extHdr.packetNumberLen }
  let decrypted ← (opener.opened (data.drop extHdrLen) extHdr.packetNumber
    (data.take extHdrLen)).mapError .aead
  if valid then return (extHdr, decrypted) else .error .invalidReservedBits

def longHeaderOpener (u : PacketUnpacker) :
    Option PacketType → Except UnpackError (EncryptionLevel × LongHeaderOpener)
  | some .initial => return (.initial, ← u.getInitialOpener.mapError .keys)
  | some .handshake => return (.handshake, ← u.getHandshakeOpener.mapError .keys)
  | some .zeroRTT => return (.zeroRTT, ← u.get0RTTOpener.mapError .keys)
  | type => .error (.unknownPacketType type)

/-- `UnpackLongHeader`. -/
def unpackLong (u : PacketUnpacker) (hdr : Header) (data : Bytes) :
    Except UnpackError UnpackedPacket := do
  let (encryptionLevel, opener) ← u.longHeaderOpener hdr.type
  let (extHdr, decrypted) ← unpackLongHeaderPacket opener hdr data
  if decrypted.length = 0 then .error .emptyPacket
  else return { hdr := extHdr, encryptionLevel, data := decrypted }

/-- `unpackShortHeader`: the header, whether the reserved bits are valid, and the data without
header protection. -/
def unpackShortHeader (shortHdrConnIDLen : Nat) (hp : HeaderProtector) (data : Bytes) :
    Except UnpackError (ShortHeader × Bool × Bytes) :=
  let hdrLen := 1 + shortHdrConnIDLen
  if data.length < hdrLen + 4 + 16 then .error (.packetTooSmall (data.length - hdrLen))
  else
    let decrypted := hp.applyAt data hdrLen 4
    match parseShortHeader decrypted shortHdrConnIDLen with
    | .error e => .error (.headerParse e)
    | .ok (hdr, valid) =>
      .ok (hdr, valid, restorePNBytes data decrypted hdrLen hdr.packetNumberLen)

def unpackShortHeaderPacket (shortHdrConnIDLen : Nat) (opener : ShortHeaderOpener) (rcvTime : Time)
    (data : Bytes) : Except UnpackError UnpackedShortHeader := do
  let (hdr, valid, data) ← unpackShortHeader shortHdrConnIDLen opener.hp data
  let pn := opener.decodePacketNumber hdr.packetNumber hdr.packetNumberLen
  let decrypted ← (opener.opened (data.drop hdr.length) rcvTime pn hdr.keyPhase
    (data.take hdr.length)).mapError .aead
  if valid then
    return {
      packetNumber := pn
      packetNumberLen := hdr.packetNumberLen
      keyPhase := hdr.keyPhase
      data := decrypted }
  else .error .invalidReservedBits

/-- `UnpackShortHeader`. -/
def unpackShort (u : PacketUnpacker) (rcvTime : Time) (data : Bytes) :
    Except UnpackError UnpackedShortHeader := do
  let opener ← u.get1RTTOpener.mapError .keys
  let packet ← unpackShortHeaderPacket u.shortHdrConnIDLen opener rcvTime data
  if packet.data.length = 0 then .error .emptyPacket else return packet

end PacketUnpacker

end MoqQuic.Quic
