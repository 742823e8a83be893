import MoqQuic.Quic.Frames.Codec
import MoqQuic.Quic.PacketNumber

/-!
# MoqQuic.Quic.Header

Packet headers: `header.go`, `extended_header.go` and `short_header.go` of `internal/wire`.

A long header is parsed in two steps. `ParsePacket` reads everything up to the packet number, and
cuts the packet off from those that follow it in the datagram; the packet number is read by
`ParseExtended` when the header protection has been removed. A short header has no length.
-/

namespace MoqQuic

open Parse

namespace Quic

abbrev Version : Type := Nat

def Version1 : Version := 0x1
def Version2 : Version := 0x6b3343cf

def SupportedVersions : List Version := [Version1, Version2]

inductive PacketType where
  | initial
  | retry
  | handshake
  | zeroRTT
  deriving DecidableEq, Repr

inductive KeyPhaseBit where
  | zero
  | one
  deriving DecidableEq, Repr

/-- The errors of the parse functions. -/
inductive HeaderError where
  /-- `io.EOF` -/
  | eof
  /-- `io.ErrUnexpectedEOF` -/
  | unexpectedEOF
  /-- "not a long header packet" -/
  | notLongHeaderPacket
  /-- "not a short header packet" -/
  | notShortHeaderPacket
  /-- "not a QUIC packet" -/
  | notQUICPacket
  /-- "invalid Connection ID length" -/
  | invalidConnectionIDLen
  /-- "unsupported version" -/
  | unsupportedVersion
  /-- "packet length (%d bytes) is smaller than the expected length (%d bytes)" -/
  | packetTooShort (got expected : Nat)
  /-- "invalid packet number length: %d" -/
  | invalidPacketNumberLen (pnLen : PacketNumberLen)
  /-- a slice index out of range -/
  | sliceBounds
  deriving DecidableEq, Repr

end Quic

instance : StreamError Quic.HeaderError where
  eof := .eof
  unexpectedEOF := .unexpectedEOF

namespace Quic

/-- The ways in which writing a header fails. -/
inductive HeaderAppendError where
  | panic (err : StreamPanic)
  /-- `AppendWithLen`: "cannot encode %d in %d bytes" -/
  | cannotEncode (i length : Nat)
  /-- "invalid packet number length: %d" -/
  | invalidPacketNumberLen (pnLen : PacketNumberLen)
  deriving DecidableEq, Repr

/-! ## numbers of fixed length -/

def putUint32 (v : Nat) : Bytes :=
  [UInt8.ofNat (v >>> 24), UInt8.ofNat (v >>> 16), UInt8.ofNat (v >>> 8), UInt8.ofNat v]

/-- `binary.BigEndian.Uint32`. -/
def bigEndianUint32 : Bytes → Nat
  | b0 :: b1 :: b2 :: b3 :: _ =>
    b3.toNat + b2.toNat <<< 8 + b1.toNat <<< 16 + b0.toNat <<< 24
  | _ => 0

/-- `quicvarint.AppendWithLen` with a length of 2. -/
def appendVarintLen2 (b : Bytes) (i : Nat) : Except HeaderAppendError Bytes :=
  match Quicvarint.len i with
  | none => .error (.panic .varintTooLarge)
  | some 1 => .ok (b ++ [0x40, UInt8.ofNat i])
  | some 2 =>
    match Quicvarint.append b i with
    | none => .error (.panic .varintTooLarge)
    | some b => .ok b
  | some _ => .error (.cannotEncode i 2)

/-! ## long headers -/

/-- `wire.Header`; the type is missing in a Version Negotiation packet. -/
structure Header where
  type : Option PacketType := none
  version : Version
  srcConnectionID : ConnectionID
  destConnectionID : ConnectionID
  length : Nat := 0
  token : Bytes := []
  parsedLen : Nat := 0
  deriving DecidableEq, Repr

structure ExtendedHeader extends Header where
  packetNumberLen : PacketNumberLen := 0
  packetNumber : PacketNumber := 0
  /-- the number of bytes of the whole header -/
  parsedExtLen : Nat := 0
  deriving DecidableEq, Repr

/-- The two bits of the packet type. -/
def packetTypeBits (v : Version) : Option PacketType → UInt8
  | some .initial => if v = Version2 then 0b01 else 0b00
  | some .zeroRTT => if v = Version2 then 0b10 else 0b01
  | some .handshake => if v = Version2 then 0b11 else 0b10
  | some .retry => if v = Version2 then 0b00 else 0b11
  | none => 0

namespace ExtendedHeader

/-- The length and the packet number at the end of the header. -/
def appendLengthAndNumber (h : ExtendedHeader) (b : Bytes) : Except HeaderAppendError Bytes := do
  let b ← appendVarintLen2 b h.length
  (appendPacketNumber b h.packetNumber h.packetNumberLen).mapError
    fun e => .invalidPacketNumberLen e.pnLen

/-- `Append`; no connection ID is too long. -/
def append (h : ExtendedHeader) (b : Bytes) (v : Version) : Except HeaderAppendError Bytes := do
  let firstByte := (0xc0 : UInt8) ||| packetTypeBits v h.type <<< 4
  -- Retry packets don't have a packet number
  let firstByte :=
    if h.type ≠ some .retry then firstByte ||| UInt8.ofNat (h.packetNumberLen - 1) else firstByte
  let b := b ++ [firstByte] ++ putUint32 h.version ++
    [UInt8.ofNat h.destConnectionID.len] ++ h.destConnectionID.bytes ++
    [UInt8.ofNat h.srcConnectionID.len] ++ h.srcConnectionID.bytes
  match h.type with
  | some .retry => return b ++ h.token
  | some .initial => do
    let b ← (appendVarint b h.token.length).mapError fun _ => .panic .varintTooLarge
    h.appendLengthAndNumber (b ++ h.token)
  | _ => h.appendLengthAndNumber b

def getLength (h : ExtendedHeader) : Except StreamPanic Nat := do
  let length := 1 + 4 + 1 + h.destConnectionID.len + 1 + h.srcConnectionID.len +
    h.packetNumberLen + 2
  if h.type = some .initial then return length + (← varintLen h.token.length) + h.token.length
  else return length

end ExtendedHeader

def isLongHeaderPacket (firstByte : UInt8) : Bool := firstByte &&& 0x80 > 0

/-- The packet type in the first byte. -/
def packetTypeOf (typeByte : UInt8) (v : Version) : PacketType :=
  let bits := typeByte >>> 4 &&& 0b11
  if v = Version2 then
    if bits = 0b00 then .retry else if bits = 0b01 then .initial
    else if bits = 0b10 then .zeroRTT else .handshake
  else
    if bits = 0b00 then .initial else if bits = 0b01 then .zeroRTT
    else if bits = 0b10 then .handshake else .retry

namespace Header

/-- `protocol.ParseConnectionID` of a slice whose length has been checked. -/
def takeConnectionID (n : Nat) (h : n ≤ MaxConnIDLen) : Parse HeaderError Unit ConnectionID :=
  fun s b =>
    if n > b.length then (.error .eof, s, b)
    else (.ok ⟨b.take n, length_take_le_maxConnIDLen b h⟩, s, b.drop n)

/-- The part of `parseLongHeader` after the connection IDs, for a version that is supported. -/
def parseRest (h : Header) : Parse HeaderError Unit Header :=
  match h.type with
  | some .retry => fun s b =>
    -- the token is followed by the integrity tag
    if b.length ≤ 16 then (.error .eof, s, b)
    else (.ok { h with token := b.take (b.length - 16) }, s, [])
  | some .initial => do
    let tokenLen ← Quicvarint.parse
    let token ← takeSlice tokenLen
    let length ← Quicvarint.parse
    return { h with token, length }
  | _ => do
    let length ← Quicvarint.parse
    return { h with length }

/-- `parseLongHeader`: the header without the first byte. -/
def parseLongHeader (typeByte : UInt8) : Parse HeaderError Unit Header := do
  let start ← takeSlice 5
  let version := bigEndianUint32 start
  if version ≠ 0 ∧ typeByte &&& 0x40 = 0 then fail .notQUICPacket
  else do
    let destConnIDLen := (start.getD 4 0).toNat
    if hd : destConnIDLen > MaxConnIDLen then fail .invalidConnectionIDLen
    else do
      -- the slice must hold the length of the source connection ID as well
      let (destConnectionID, srcConnIDLen) ← fun s b =>
        if b.length < destConnIDLen + 1 then (.error .eof, s, b)
        else (do
          let destConnectionID ← takeConnectionID destConnIDLen (not_lt.mp hd)
          let srcConnIDLen ← readByte
          return (destConnectionID, srcConnIDLen.toNat) :
            Parse HeaderError Unit (ConnectionID × Nat)) s b
      if hs : srcConnIDLen > MaxConnIDLen then fail .invalidConnectionIDLen
      else do
        let srcConnectionID ← takeConnectionID srcConnIDLen (not_lt.mp hs)
        let h : Header := { version, destConnectionID, srcConnectionID }
        if version = 0 then return h
        else if version ∉ SupportedVersions then fail .unsupportedVersion
        else parseRest { h with type := some (packetTypeOf typeByte version) }

def parseHeader (b : Bytes) : Except HeaderError Header :=
  match b with
  | [] => .error .eof
  | typeByte :: rest =>
    match parseLongHeader typeByte () rest with
    | (.ok h, _, rest') => .ok { h with parsedLen := rest.length - rest'.length + 1 }
    | (.error e, _, _) => .error e

/-- `ParsePacket`: the header, the packet, and what follows it. -/
def parsePacket (data : Bytes) : Except HeaderError (Header × Bytes × Bytes) :=
  match data with
  | [] => .error .notLongHeaderPacket
  | first :: _ =>
    if isLongHeaderPacket first = false then .error .notLongHeaderPacket
    else do
      let hdr ← parseHeader data
      let packetLen := hdr.parsedLen + hdr.length
      if data.length < packetLen then
        .error (.packetTooShort (data.length - hdr.parsedLen) hdr.length)
      else return (hdr, data.take packetLen, data.drop packetLen)

/-- `ParseExtended`: the extended header and whether the reserved bits are valid. -/
def parseExtended (h : Header) (data : Bytes) : Except HeaderError (ExtendedHeader × Bool) :=
  match data with
  | [] => .error .sliceBounds
  | typeByte :: _ =>
    let pnLen := (typeByte &&& 0x3).toNat + 1
    if data.length < h.parsedLen + pnLen then .error .eof
    else
      match readPacketNumber (data.drop h.parsedLen) pnLen with
      | none => .error .sliceBounds
      | some (.error _) => .ok ({ h with packetNumberLen := pnLen }, true)
      | some (.ok pn) =>
        .ok ({ h with
          packetNumberLen := pnLen
          packetNumber := pn
          parsedExtLen := h.parsedLen + pnLen }, typeByte &&& 0xc = 0)

end Header

/-! ## short headers -/

/-- What `ParseShortHeader` returns. -/
structure ShortHeader where
  length : Nat
  packetNumber : PacketNumber
  packetNumberLen : PacketNumberLen
  keyPhase : KeyPhaseBit
  deriving DecidableEq, Repr

/-- `ParseShortHeader`: the header and whether the reserved bits are valid. -/
def parseShortHeader (data : Bytes) (connIDLen : Nat) : Except HeaderError (ShortHeader × Bool) :=
  match data with
  | [] => .error .eof
  | typeByte :: _ =>
    if typeByte &&& 0x80 > 0 then .error .notShortHeaderPacket
    else if typeByte &&& 0x40 = 0 then .error .notQUICPacket
    else
      let pnLen := (typeByte &&& 0b11).toNat + 1
      if data.length < 1 + pnLen + connIDLen then .error .eof
      else
        match readPacketNumber (data.drop (1 + connIDLen)) pnLen with
        | none => .error .sliceBounds
        | some (.error e) => .error (.invalidPacketNumberLen e.pnLen)
        | some (.ok pn) =>
          .ok ({
            length := 1 + connIDLen + pnLen
            packetNumber := pn
            packetNumberLen := pnLen
            keyPhase := if typeByte &&& 0b100 > 0 then .one else .zero },
            typeByte &&& 0x18 = 0)

def appendShortHeader (b : Bytes) (connID : ConnectionID) (pn : PacketNumber)
    (pnLen : PacketNumberLen) (kp : KeyPhaseBit) : Except HeaderAppendError Bytes :=
  let typeByte : UInt8 := 0x40 ||| UInt8.ofNat (pnLen - 1)
  let typeByte := if kp = .one then typeByte ||| (1 : UInt8) <<< 2 else typeByte
  (appendPacketNumber (b ++ [typeByte] ++ connID.bytes) pn pnLen).mapError
    fun e => .invalidPacketNumberLen e.pnLen

def shortHeaderLen (dest : ConnectionID) (pnLen : PacketNumberLen) : Nat := 1 + dest.len + pnLen

end Quic

end MoqQuic
