import MoqQuic.Quic.Frames.Appends
import MoqQuic.Quic.Frames.RoundTrip
import MoqQuic.Quic.Packer

/-!
# MoqQuic.Quic.Packer.Layout

The bytes of a packet.

A payload is `Consistent` when its frames can be written and its length is the sum of what they
write. Then `appendShortHeaderPacket_eq` and `appendLongHeaderPacket_eq` say which bytes are sealed,
and the only ways left in which packing fails are the size check, the capacity of the buffer and the
packet number.
-/

namespace MoqQuic

open Quicvarint (encode Encodes)

namespace Quic

/-! ## payloads -/

/-- What `append` writes. -/
def WireFrame.bytes (f : WireFrame) : Bytes :=
  match f.append [] with
  | .ok bs => bs
  | .error _ => []

/-- The frame can be written. -/
def WireFrame.Writable (f : WireFrame) : Prop := f.append [] = .ok f.bytes

/-- All frames, in the order in which they are written. -/
def Payload.allFrames (pl : Payload) : List WireFrame :=
  pl.ack.toList.map .ack ++ pl.frames ++ pl.streamFrames.map .stream

/-- What the frames of the list write. -/
def framesBytes (fs : List WireFrame) : Bytes := fs.flatMap (·.bytes)

/-- **Consistent payload**: the frames can be written, and the length is that of what they write. -/
structure Payload.Consistent (pl : Payload) : Prop where
  writable : ∀ f ∈ pl.allFrames, f.Writable
  length_eq : pl.length = (framesBytes pl.allFrames).length

/-- The payload as it is sealed: the padding follows the ACK frame. -/
def Payload.body (pl : Payload) (paddingLen : Nat) : Bytes :=
  framesBytes (pl.ack.toList.map .ack) ++ List.replicate paddingLen 0 ++
    (framesBytes pl.frames ++ framesBytes (pl.streamFrames.map .stream))

theorem framesBytes_append (fs gs : List WireFrame) :
    framesBytes (fs ++ gs) = framesBytes fs ++ framesBytes gs := List.flatMap_append

theorem length_body {pl : Payload} (h : pl.Consistent) (paddingLen : Nat) :
    (pl.body paddingLen).length = pl.length + paddingLen := by
  have hlength := h.length_eq
  simp only [Payload.allFrames, framesBytes_append, List.length_append] at hlength
  simp only [Payload.body, List.length_append, List.length_replicate]
  omega

theorem Payload.shuffled_eq (pl : Payload) (rand : Shuffle) :
    ∃ frames, frames.Perm pl.frames ∧ pl.shuffled rand = { pl with frames } := by
  by_cases h : pl.frames.length > 1
  · exact ⟨rand.shuffle pl.frames, rand.perm _, if_pos h⟩
  · exact ⟨pl.frames, .refl _, if_neg h⟩

/-- The order of the frames doesn't matter. -/
theorem Payload.Consistent.shuffled {pl : Payload} (h : pl.Consistent) (rand : Shuffle) :
    (pl.shuffled rand).Consistent := by
  obtain ⟨frames, hperm, heq⟩ := pl.shuffled_eq rand
  have hall : (pl.shuffled rand).allFrames.Perm pl.allFrames := by
    rw [heq]
    exact ((List.Perm.refl _).append hperm).append (.refl _)
  refine ⟨fun f hf => h.writable f (hall.subset hf), ?_⟩
  rw [framesBytes, (hall.flatMap_right _).length_eq, ← framesBytes, ← h.length_eq, heq]

@[simp] theorem shuffled_length (pl : Payload) (rand : Shuffle) :
    (pl.shuffled rand).length = pl.length := by
  obtain ⟨frames, -, heq⟩ := pl.shuffled_eq rand
  rw [heq]

@[simp] theorem shuffled_ack (pl : Payload) (rand : Shuffle) : (pl.shuffled rand).ack = pl.ack := by
  obtain ⟨frames, -, heq⟩ := pl.shuffled_eq rand
  rw [heq]

@[simp] theorem shuffled_streamFrames (pl : Payload) (rand : Shuffle) :
    (pl.shuffled rand).streamFrames = pl.streamFrames := by
  obtain ⟨frames, -, heq⟩ := pl.shuffled_eq rand
  rw [heq]

namespace PacketPacker

theorem appendFrames_eq {frames : List WireFrame} (h : ∀ f ∈ frames, f.Writable) (raw : Bytes) :
    appendFrames raw frames = .ok (raw ++ framesBytes frames) := by
  induction frames generalizing raw with
  | nil => simp [appendFrames, framesBytes, pure, Except.pure]
  | cons f fs ih =>
    have hf := f.append_appends.ok (h f List.mem_cons_self) raw
    have hfs := ih (fun g hg => h g (List.mem_cons_of_mem f hg)) (raw ++ f.bytes)
    simp only [appendFrames] at hfs ⊢
    rw [List.foldlM_cons, hf, Outcome.ok_bind, hfs]
    simp [framesBytes]

theorem appendAck_eq {ack : Option Frames.AckFrame}
    (h : ∀ f ∈ ack.toList.map WireFrame.ack, f.Writable) (raw : Bytes) :
    appendAck raw ack = .ok (raw ++ framesBytes (ack.toList.map .ack)) := by
  cases ack with
  | none => simp [appendAck, framesBytes]
  | some ack =>
    have happend := (WireFrame.ack ack).append_appends.ok (h _ (by simp)) raw
    simp only [Option.toList_some, List.map_cons, List.map_nil, framesBytes, List.flatMap_cons,
      List.flatMap_nil, List.append_nil]
    exact happend

/-- **`appendPacketPayload`** writes a consistent payload. -/
theorem appendPacketPayload_eq {pl : Payload} (h : pl.Consistent) (raw : Bytes) (paddingLen : Nat) :
    appendPacketPayload raw pl paddingLen = .ok (raw ++ pl.body paddingLen) := by
  have hack := appendAck_eq
    (fun f hf => h.writable f (List.mem_append_left _ (List.mem_append_left _ hf))) raw
  have hframes := fun raw => appendFrames_eq
    (fun f hf => h.writable f (List.mem_append_left _ (List.mem_append_right _ hf))) raw
  have hstream := fun raw => appendFrames_eq
    (fun f hf => h.writable f (List.mem_append_right _ hf)) raw
  have hfold : ∀ raw, pl.streamFrames.foldlM (fun raw f => f.append raw) raw =
      .ok (raw ++ framesBytes (pl.streamFrames.map .stream)) := fun raw => by
    rw [← hstream raw, appendFrames, List.foldlM_map]
    rfl
  have hwrite : appendPayloadFrames raw pl paddingLen = .ok (raw ++ pl.body paddingLen) := by
    simp [appendPayloadFrames, hack, hframes, hfold, Payload.body]
  have hlength := length_body h paddingLen
  simp only [appendPacketPayload, hwrite, Except.mapError, Outcome.ok_bind, List.length_append]
  rw [if_neg (by omega)]
  rfl

/-- A payload that is not empty is not tiny after the padding. -/
theorem four_le_minPadding (pnLen : Nat) (pl : Payload) :
    4 ≤ pnLen + (pl.length + minPadding pnLen pl) := by
  unfold minPadding
  split <;> omega

end PacketPacker

/-! ## headers -/

/-- The bytes of the packet number. -/
theorem appendPacketNumber_eq (pn : PacketNumber) {pnLen : Nat} (h : 1 ≤ pnLen ∧ pnLen ≤ 4) :
    ∃ bs, (∀ b, appendPacketNumber b pn pnLen = .ok (b ++ bs)) ∧ bs.length = pnLen := by
  obtain rfl | rfl | rfl | rfl : pnLen = 1 ∨ pnLen = 2 ∨ pnLen = 3 ∨ pnLen = 4 := by omega
  · exact ⟨[_], fun b => rfl, rfl⟩
  · exact ⟨[_, _], fun b => rfl, rfl⟩
  · exact ⟨[_, _, _], fun b => rfl, rfl⟩
  · exact ⟨[_, _, _, _], fun b => rfl, rfl⟩

/-- What `appendPacketNumber` writes. -/
def packetNumberBytes (pn : PacketNumber) (pnLen : PacketNumberLen) : Bytes :=
  match appendPacketNumber [] pn pnLen with
  | .ok bs => bs
  | .error _ => []

section

variable {pn : PacketNumber} {pnLen : Nat}

theorem appendPacketNumber_ok (h : 1 ≤ pnLen ∧ pnLen ≤ 4) (b : Bytes) :
    appendPacketNumber b pn pnLen = .ok (b ++ packetNumberBytes pn pnLen) := by
  obtain ⟨bs, hbs, -⟩ := appendPacketNumber_eq pn h
  rw [packetNumberBytes, hbs, hbs]
  rfl

theorem length_packetNumberBytes (pn : PacketNumber) (h : 1 ≤ pnLen ∧ pnLen ≤ 4) :
    (packetNumberBytes pn pnLen).length = pnLen := by
  obtain ⟨bs, hbs, hlength⟩ := appendPacketNumber_eq pn h
  rw [packetNumberBytes, hbs]
  exact hlength

theorem readPacketNumber_bytes (hpn : 0 ≤ pn) (h : 1 ≤ pnLen ∧ pnLen ≤ 4) (data : Bytes) :
    readPacketNumber (packetNumberBytes pn pnLen ++ data) pnLen =
      some (.ok (pn % (2 ^ (8 * pnLen) : Nat))) := by
  obtain ⟨bs, happend, -, hread⟩ := readPacketNumber_append hpn h [] data
  rw [packetNumberBytes, happend]
  exact hread

end

/-- The first byte of a short header. -/
def shortFirstByte (pnLen : PacketNumberLen) (kp : KeyPhaseBit) : UInt8 :=
  let typeByte : UInt8 := 0x40 ||| UInt8.ofNat (pnLen - 1)
  if kp = .one then typeByte ||| (1 : UInt8) <<< 2 else typeByte

def shortHeaderBytes (connID : ConnectionID) (pn : PacketNumber) (pnLen : PacketNumberLen)
    (kp : KeyPhaseBit) : Bytes :=
  shortFirstByte pnLen kp :: (connID.bytes ++ packetNumberBytes pn pnLen)

theorem appendShortHeader_eq {pnLen : Nat} (h : 1 ≤ pnLen ∧ pnLen ≤ 4)
    (connID : ConnectionID) (pn : PacketNumber) (kp : KeyPhaseBit) :
    appendShortHeader [] connID pn pnLen kp = .ok (shortHeaderBytes connID pn pnLen kp) := by
  simp only [appendShortHeader, appendPacketNumber_ok h, Except.mapError]
  rfl

theorem length_shortHeaderBytes {pnLen : Nat} (h : 1 ≤ pnLen ∧ pnLen ≤ 4)
    (connID : ConnectionID) (pn : PacketNumber) (kp : KeyPhaseBit) :
    (shortHeaderBytes connID pn pnLen kp).length = shortHeaderLen connID pnLen := by
  simp only [shortHeaderBytes, List.length_cons, List.length_append, length_packetNumberBytes pn h,
    shortHeaderLen, ConnectionID.len]
  omega

/-- The two bytes of the length. -/
def lengthBytes (i : Nat) : Bytes := if i ≤ 63 then [0x40, UInt8.ofNat i] else encode i

theorem appendVarintLen2_eq {i : Nat} (h : i < 2 ^ 14) (b : Bytes) :
    appendVarintLen2 b i = .ok (b ++ lengthBytes i) := by
  by_cases hsmall : i ≤ 63
  · have hlen : Quicvarint.len i = some 1 := if_pos hsmall
    simp only [appendVarintLen2, hlen, lengthBytes, if_pos hsmall]
  · have hlen : Quicvarint.len i = some 2 := by
      unfold Quicvarint.len Quicvarint.maxVarInt1 Quicvarint.maxVarInt2
      rw [if_neg (by omega), if_pos (by omega)]
    simp only [appendVarintLen2, hlen, lengthBytes, if_neg hsmall,
      Quicvarint.append_eq b (by omega : i < 2 ^ 62)]

theorem length_lengthBytes {i : Nat} (h : i < 2 ^ 14) : (lengthBytes i).length = 2 := by
  unfold lengthBytes
  by_cases hsmall : i ≤ 63
  · rw [if_pos hsmall]
    rfl
  · rw [if_neg hsmall, Quicvarint.length_encode]
    unfold Quicvarint.len Quicvarint.maxVarInt1 Quicvarint.maxVarInt2
    rw [if_neg (by omega), if_pos (by omega)]
    rfl

namespace ExtendedHeader

/-- A header of the packer, for a packet with a length that fits in two bytes. -/
structure Packable (h : ExtendedHeader) : Prop where
  type : h.type = some .initial ∨ h.type = some .handshake ∨ h.type = some .zeroRTT
  token : h.type ≠ some .initial → h.token = []
  token_lt : h.token.length < 2 ^ 62
  pnLen : 1 ≤ h.packetNumberLen ∧ h.packetNumberLen ≤ 4

/-- The first byte of a long header. -/
def firstByte (h : ExtendedHeader) (v : Version) : UInt8 :=
  (0xc0 : UInt8) ||| packetTypeBits v h.type <<< 4 ||| UInt8.ofNat (h.packetNumberLen - 1)

/-- The token of an Initial packet. -/
def tokenBytes (h : ExtendedHeader) : Bytes :=
  if h.type = some .initial then encode h.token.length ++ h.token else []

/-- The bytes between the first byte and the packet number. -/
def middle (h : ExtendedHeader) : Bytes :=
  putUint32 h.version ++ [UInt8.ofNat h.destConnectionID.len] ++ h.destConnectionID.bytes ++
    [UInt8.ofNat h.srcConnectionID.len] ++ h.srcConnectionID.bytes ++ h.tokenBytes ++
    lengthBytes h.length

/-- The long header. -/
def bytes (h : ExtendedHeader) (v : Version) : Bytes :=
  h.firstByte v :: (h.middle ++ packetNumberBytes h.packetNumber h.packetNumberLen)

variable {h : ExtendedHeader}

theorem appendLengthAndNumber_eq (hh : h.Packable) (hlength : h.length < 2 ^ 14) (b : Bytes) :
    h.appendLengthAndNumber b = .ok (b ++ lengthBytes h.length ++
      packetNumberBytes h.packetNumber h.packetNumberLen) := by
  simp only [appendLengthAndNumber, appendVarintLen2_eq hlength, Outcome.ok_bind,
    appendPacketNumber_ok hh.pnLen, Except.mapError]

/-- **`ExtendedHeader.Append`**. -/
theorem append_eq (hh : h.Packable) (hlength : h.length < 2 ^ 14) (v : Version) :
    h.append [] v = .ok (h.bytes v) := by
  have hnumber := appendLengthAndNumber_eq hh hlength
  obtain htype | htype | htype := hh.type
  · simp [append, htype, hnumber, bytes, middle, firstByte, tokenBytes,
      appendVarint_eq hh.token_lt, Except.mapError]
  · simp [append, htype, hnumber, bytes, middle, firstByte, tokenBytes]
  · simp [append, htype, hnumber, bytes, middle, firstByte, tokenBytes]

/-- `GetLength` is right. -/
theorem getLength_eq (hh : h.Packable) (hlength : h.length < 2 ^ 14) (v : Version) :
    h.getLength = .ok (h.bytes v).length := by
  have hnumber := length_packetNumberBytes h.packetNumber hh.pnLen
  have htwo := length_lengthBytes hlength
  by_cases htype : h.type = some .initial
  · simp [getLength, htype, bytes, middle, tokenBytes, varintLen_eq hh.token_lt, hnumber, htwo,
      putUint32, ConnectionID.len, pure, Except.pure]
    omega
  · simp [getLength, htype, bytes, middle, tokenBytes, hnumber, htwo, putUint32,
      ConnectionID.len, pure, Except.pure]
    omega

end ExtendedHeader

/-! ## packets -/

variable {raw : Bytes}

theorem HeaderProtector.length_applyAt (hp : HeaderProtector) {pnOffset n : Nat}
    (hoff : 1 ≤ pnOffset) (hn : n ≤ 4) (hle : pnOffset + n ≤ raw.length) :
    (hp.applyAt raw pnOffset n).length = raw.length := by
  cases raw with
  | nil => simp at hle; omega
  | cons firstByte rest =>
    simp only [List.length_cons] at hle
    have hpn : (((firstByte :: rest).drop pnOffset).take n).length = n := by
      simp only [List.length_take, List.length_drop, List.length_cons]
      omega
    have happly := hp.length_apply
      (((firstByte :: rest).drop (pnOffset + 4)).take 16) firstByte _ (hpn.trans_le hn)
    simp only [applyAt, List.length_cons, List.length_append, happly, hpn, List.length_take,
      List.length_drop]
    omega

namespace PacketPacker

theorem length_encryptPacket {hdr body : Bytes} {pnLen : Nat} (sealer : Sealer)
    (pn : PacketNumber) (hlen : pnLen ≤ 4) (hhdr : pnLen < hdr.length) :
    (encryptPacket (hdr ++ body) sealer pn hdr.length pnLen).length =
      (hdr ++ body).length + sealerOverhead := by
  have hraw : (hdr ++ sealer.sealed body pn hdr).length = hdr.length + (body.length + sealerOverhead) := by
    rw [List.length_append, sealer.length_sealed]
  simp only [encryptPacket, List.take_left, List.drop_left]
  rw [sealer.hp.length_applyAt (by omega) hlen (by omega), hraw, List.length_append]
  omega

/-! ### the two append functions -/

theorem extend_eq_ok_iff {b b' : PacketBuffer} :
    b.extend raw = .ok b' ↔
      b.data.length + raw.length ≤ b.cap ∧ b'.data = b.data ++ raw ∧ b'.cap = b.cap := by
  rw [← List.length_append]
  unfold PacketBuffer.extend
  by_cases h : (b.data ++ raw).length ≤ b.cap
  · rw [dif_pos h, Except.ok.injEq]
    constructor
    · rintro rfl
      exact ⟨h, rfl, rfl⟩
    · cases b'
      rintro ⟨-, rfl, rfl⟩
      rfl
  · rw [dif_neg h]
    constructor
    · rintro ⟨⟩
    · rintro ⟨hle, -⟩
      exact absurd hle h

variable {expected got : PacketNumber}

theorem checkPopped_eq_ok_iff {u : Unit} : checkPopped expected got = .ok u ↔ got = expected := by
  unfold checkPopped
  split <;> simp_all

variable {buffer b : PacketBuffer}

/-- The end of both functions. -/
theorem finish_eq_ok_iff {α : Type} {x y : α} {m m' : PacketNumberManager} :
    (buffer.extend raw >>= fun b' => checkPopped expected got >>= fun _ => pure (x, b', m')) =
        .ok (y, b, m) ↔
      buffer.data.length + raw.length ≤ buffer.cap ∧ got = expected ∧ m' = m ∧
        b.data = buffer.data ++ raw ∧ b.cap = buffer.cap ∧ y = x := by
  simp only [Outcome.bind_eq_ok, extend_eq_ok_iff, checkPopped_eq_ok_iff, pure, Except.pure,
    Except.ok.injEq, Prod.mk.injEq, exists_const]
  constructor
  · rintro ⟨b', ⟨hcap, hdata, hb'⟩, hgot, rfl, rfl, rfl⟩
    exact ⟨hcap, hgot, rfl, hdata, hb', rfl⟩
  · rintro ⟨hcap, hgot, rfl, hdata, hb', rfl⟩
    exact ⟨b, ⟨hcap, hdata, hb'⟩, hgot, rfl, rfl, rfl⟩

section

variable (rand : Shuffle) (pl : Payload) (padding : Nat) (sealer : Sealer)

def shortRaw (connID : ConnectionID) (pn : PacketNumber) (pnLen : PacketNumberLen)
    (kp : KeyPhaseBit) : Bytes :=
  let hdr := shortHeaderBytes connID pn pnLen kp
  encryptPacket (hdr ++ (pl.shuffled rand).body (minPadding pnLen pl + padding)) sealer pn
    hdr.length pnLen

/-- The header of a long header packet, with its length. -/
def withLength (header : ExtendedHeader) : ExtendedHeader :=
  { header with
    length := header.packetNumberLen + sealerOverhead + pl.length +
      (minPadding header.packetNumberLen pl + padding) }

def longRaw (header : ExtendedHeader) (v : Version) : Bytes :=
  let hdr := (withLength pl padding header).bytes v
  encryptPacket
    (hdr ++ (pl.shuffled rand).body (minPadding header.packetNumberLen pl + padding)) sealer
    header.packetNumber hdr.length header.packetNumberLen

variable {pl}

theorem length_shortRaw (hpl : pl.Consistent) {pnLen : Nat} (hlen : 1 ≤ pnLen ∧ pnLen ≤ 4)
    (connID : ConnectionID) (pn : PacketNumber) (kp : KeyPhaseBit) :
    (shortRaw rand pl padding sealer connID pn pnLen kp).length =
      shortHeaderPacketLength connID pnLen pl + padding + sealerOverhead := by
  have hhdr := length_shortHeaderBytes hlen connID pn kp
  have hlt : pnLen < (shortHeaderBytes connID pn pnLen kp).length := by
    rw [hhdr, shortHeaderLen]
    omega
  rw [shortRaw, length_encryptPacket sealer pn hlen.2 hlt, List.length_append, hhdr,
    length_body (hpl.shuffled rand), shuffled_length, shortHeaderPacketLength]
  omega

variable {pnManager m : PacketNumberManager}

/-- **`appendShortHeaderPacket`** of a consistent payload. -/
theorem appendShortHeaderPacket_eq_ok_iff (hpl : pl.Consistent) {pnLen : Nat}
    (hlen : 1 ≤ pnLen ∧ pnLen ≤ 4)
    {connID : ConnectionID} {pn : PacketNumber} {kp : KeyPhaseBit} {maxPacketSize : Nat}
    {isMTUProbePacket : Bool} {draw : Nat} {packet : ShortHeaderPacket} :
    appendShortHeaderPacket rand pnManager buffer connID pn pnLen kp pl padding maxPacketSize sealer
        isMTUProbePacket draw = .ok (packet, b, m) ↔
      let raw := shortRaw rand pl padding sealer connID pn pnLen kp
      (isMTUProbePacket = false → raw.length ≤ maxPacketSize) ∧
      buffer.data.length + raw.length ≤ buffer.cap ∧
      pnManager.popPacketNumber .oneRTT draw = (pn, m) ∧
      b.data = buffer.data ++ raw ∧ b.cap = buffer.cap ∧
      packet = {
        packetNumber := pn, packetNumberLen := pnLen, keyPhase := kp,
        streamFrames := pl.streamFrames, frames := (pl.shuffled rand).frames, ack := pl.ack,
        length := raw.length, destConnID := connID, isPathMTUProbePacket := isMTUProbePacket } := by
  have hraw := length_shortRaw rand padding sealer hpl hlen connID pn kp
  have hsize : (shortHeaderBytes connID pn pnLen kp ++
      (pl.shuffled rand).body (minPadding pnLen pl + padding)).length + sealerOverhead =
        (shortRaw rand pl padding sealer connID pn pnLen kp).length := by
    rw [hraw, List.length_append, length_shortHeaderBytes hlen, length_body (hpl.shuffled rand),
      shuffled_length, shortHeaderPacketLength]
    omega
  have hencrypt : encryptPacket (shortHeaderBytes connID pn pnLen kp ++
      (pl.shuffled rand).body (minPadding pnLen pl + padding)) sealer pn
        (shortHeaderBytes connID pn pnLen kp).length pnLen =
      shortRaw rand pl padding sealer connID pn pnLen kp := rfl
  simp only [appendShortHeaderPacket, appendShortHeader_eq hlen, Except.mapError, Outcome.ok_bind,
    appendPacketPayload_eq (hpl.shuffled rand), hsize, hencrypt, shuffled_ack,
    shuffled_streamFrames]
  by_cases hlarge : isMTUProbePacket = false ∧
      (shortRaw rand pl padding sealer connID pn pnLen kp).length > maxPacketSize
  · rw [if_pos hlarge]
    constructor
    · rintro ⟨⟩
    · rintro ⟨hle, -⟩
      exact absurd (hle hlarge.1) (by omega)
  · have hle : isMTUProbePacket = false →
        (shortRaw rand pl padding sealer connID pn pnLen kp).length ≤ maxPacketSize := fun h =>
      not_lt.mp fun hlt => hlarge ⟨h, hlt⟩
    rw [if_neg hlarge, and_iff_right hle]
    rcases pnManager.popPacketNumber .oneRTT draw with ⟨n, m'⟩
    refine finish_eq_ok_iff.trans ?_
    simp [and_assoc]

variable {header : ExtendedHeader}

theorem withLength_packable (h : header.Packable) :
    (withLength pl padding header).Packable := { h with }

theorem length_longRaw (hpl : pl.Consistent) (h : header.Packable) (v : Version) :
    (longRaw rand pl padding sealer header v).length =
      ((withLength pl padding header).bytes v).length + pl.length +
        minPadding header.packetNumberLen pl + padding + sealerOverhead := by
  have hlt : header.packetNumberLen < ((withLength pl padding header).bytes v).length := by
    simp only [ExtendedHeader.bytes, List.length_cons, List.length_append]
    have hpn := length_packetNumberBytes header.packetNumber h.pnLen
    simp only [withLength, hpn]
    lia
  rw [longRaw, length_encryptPacket sealer _ h.pnLen.2 hlt, List.length_append,
    length_body (hpl.shuffled rand), shuffled_length]
  omega

/-- **`appendLongHeaderPacket`** of a consistent payload. -/
theorem appendLongHeaderPacket_eq_ok_iff (hpl : pl.Consistent) (h : header.Packable)
    (hlength : (withLength pl padding header).length < 2 ^ 14) {level : EncryptionLevel} {v : Version} {draw : Nat}
    {packet : LongHeaderPacket} :
    appendLongHeaderPacket rand pnManager buffer header pl padding level sealer v draw =
        .ok (packet, b, m) ↔
      let raw := longRaw rand pl padding sealer header v
      buffer.data.length + raw.length ≤ buffer.cap ∧
      pnManager.popPacketNumber level draw = (header.packetNumber, m) ∧
      b.data = buffer.data ++ raw ∧ b.cap = buffer.cap ∧
      packet = {
        header := withLength pl padding header, ack := pl.ack,
        frames := (pl.shuffled rand).frames, streamFrames := pl.streamFrames,
        length := raw.length } := by
  have hheader : ExtendedHeader.append { header with
      length := header.packetNumberLen + sealerOverhead + pl.length +
        (minPadding header.packetNumberLen pl + padding) } [] v =
      .ok ((withLength pl padding header).bytes v) :=
    ExtendedHeader.append_eq (withLength_packable padding h) hlength v
  have hencrypt : encryptPacket ((withLength pl padding header).bytes v ++
      (pl.shuffled rand).body (minPadding header.packetNumberLen pl + padding)) sealer
        header.packetNumber ((withLength pl padding header).bytes v).length
        header.packetNumberLen = longRaw rand pl padding sealer header v := rfl
  simp only [appendLongHeaderPacket, hheader, Except.mapError, Outcome.ok_bind,
    appendPacketPayload_eq (hpl.shuffled rand), hencrypt, shuffled_ack, shuffled_streamFrames]
  rcases pnManager.popPacketNumber level draw with ⟨n, m'⟩
  refine finish_eq_ok_iff.trans ?_
  simp only [Prod.mk.injEq, and_assoc, eq_comm (a := n)]
  rfl

end

end PacketPacker

end Quic

end MoqQuic
