import MoqQuic.Quic.Packer.Layout
import MoqQuic.Quic.Unpacker

/-!
# MoqQuic.Quic.Packer.RoundTrip

What the packer writes is what the unpacker reads.

The receiver unmasks four bytes although the packet number may be shorter, learns its length from
the first byte, and puts the other bytes back: `restorePNBytes_applyAt` says that it then has the
packet as it was sealed. Everything up to there doesn't depend on the kind of the header; what a
header of each kind says is read back in `parseShortHeader_bytes`, `parsePacket_bytes` and
`parseExtended_bytes`.
-/

namespace MoqQuic

open Parse

open Quicvarint (encode Encodes)

namespace Quic

open PacketPacker

/-! ## removing the header protection -/

namespace PacketUnpacker

/-- **Header protection** is removed: four bytes are unmasked, of which those that are no part of the
packet number are restored. -/
theorem restorePNBytes_applyAt (hp : HeaderProtector) (firstByte : UInt8) (mid pn body : Bytes)
    {hdrLen : Nat} (hhdr : hdrLen = mid.length + 1) (hpn : pn.length ≤ 4)
    (hbody : 4 ≤ pn.length + body.length) :
    let received := hp.applyAt (firstByte :: (mid ++ (pn ++ body))) hdrLen pn.length
    ∃ tail, hp.applyAt received hdrLen 4 = firstByte :: (mid ++ (pn ++ tail)) ∧
      restorePNBytes received (hp.applyAt received hdrLen 4) hdrLen pn.length =
        firstByte :: (mid ++ (pn ++ body)) := by
  subst hhdr
  -- the bytes of the body that the receiver takes for a part of the packet number
  set k := 4 - pn.length
  set r := hp.apply ((body.drop k).take 16) firstByte pn with hr
  have hpn' : r.2.length = pn.length := hp.length_apply _ _ _ hpn
  have hreceived : hp.applyAt (firstByte :: (mid ++ (pn ++ body))) (mid.length + 1) pn.length =
      r.1 :: (mid ++ (r.2 ++ body)) := hp.applyAt_append firstByte mid pn body rfl hpn
  have hfour : (r.2 ++ body.take k).length = 4 := by
    rw [List.length_append, List.length_take, hpn']
    omega
  have hunmask := hp.applyAt_append r.1 mid (r.2 ++ body.take k) (body.drop k) rfl hfour.le
  rw [hfour, List.append_assoc, List.take_append_drop, Nat.sub_self, List.drop_zero] at hunmask
  obtain ⟨tail, htail, happly⟩ := hp.apply_apply ((body.drop k).take 16) firstByte
    (by rw [List.length_take]; omega : pn.length + (body.take k).length = 4)
  rw [← hr] at happly
  rw [happly] at hunmask
  dsimp only at hunmask
  rw [List.length_take, Nat.min_eq_left (by omega)] at htail
  dsimp only
  rw [hreceived, hunmask]
  refine ⟨tail ++ body.drop k, by simp, ?_⟩
  unfold restorePNBytes PacketNumberLen4
  by_cases hlen : pn.length = 4
  · have hk0 : k = 0 := by omega
    rw [if_neg (not_not.mpr hlen), List.length_eq_zero_iff.mp (htail.trans hk0), hk0]
    simp
  · have hdata : (firstByte :: (mid ++ (pn ++ tail ++ body.drop k))).take
        (mid.length + 1 + pn.length) = firstByte :: (mid ++ pn) := by
      rw [Nat.add_right_comm, List.take_succ_cons, ← List.length_append, List.append_assoc,
        ← List.append_assoc, List.take_left]
    have hcopy : (((r.1 :: (mid ++ (r.2 ++ body))).drop (mid.length + 1)).take 4).drop pn.length =
        body.take k := by
      rw [List.drop_succ_cons, List.drop_left, List.drop_take, ← hpn', List.drop_left, hpn']
    have hrest : (firstByte :: (mid ++ (pn ++ tail ++ body.drop k))).drop (mid.length + 1 + 4) =
        body.drop k := by
      rw [Nat.add_right_comm, List.drop_succ_cons, ← List.drop_drop, List.drop_left]
      have hlength : (pn ++ tail).length = 4 := by
        rw [List.length_append]
        omega
      rw [← hlength, List.drop_left]
    rw [if_pos hlen, hdata, hcopy, hrest]
    simp

end PacketUnpacker

/-! ## short headers -/

theorem shortFirstByte_flags (kp : KeyPhaseBit) : ∀ pnLen ∈ [1, 2, 3, 4],
    ¬ shortFirstByte pnLen kp &&& 0x80 > 0 ∧ shortFirstByte pnLen kp &&& 0x40 ≠ 0 ∧
      (shortFirstByte pnLen kp &&& 0b11).toNat + 1 = pnLen ∧
      shortFirstByte pnLen kp &&& 0x18 = 0 ∧
      (if shortFirstByte pnLen kp &&& 0b100 > 0 then KeyPhaseBit.one else .zero) = kp := by
  cases kp <;> decide

theorem mem_lengths {pnLen : Nat} (h : 1 ≤ pnLen ∧ pnLen ≤ 4) : pnLen ∈ [1, 2, 3, 4] := by
  simp only [List.mem_cons, List.not_mem_nil, or_false]
  omega

/-- `ParseShortHeader` reads what `AppendShortHeader` wrote. -/
theorem parseShortHeader_bytes {pn : PacketNumber} (hpn : 0 ≤ pn) {pnLen : Nat}
    (hlen : 1 ≤ pnLen ∧ pnLen ≤ 4) (connID : ConnectionID) (kp : KeyPhaseBit) (data : Bytes) :
    parseShortHeader (shortHeaderBytes connID pn pnLen kp ++ data) connID.len =
      .ok ({
        length := shortHeaderLen connID pnLen
        packetNumber := pn % (2 ^ (8 * pnLen) : Nat)
        packetNumberLen := pnLen
        keyPhase := kp }, true) := by
  obtain ⟨hshort, hquic, hbits, hreserved, hkp⟩ := shortFirstByte_flags kp pnLen (mem_lengths hlen)
  have hlength := length_shortHeaderBytes hlen connID pn kp
  have hdrop : (shortHeaderBytes connID pn pnLen kp ++ data).drop (1 + connID.len) =
      packetNumberBytes pn pnLen ++ data := by
    rw [shortHeaderBytes, List.cons_append, Nat.add_comm, List.drop_succ_cons, List.append_assoc,
      ConnectionID.len, List.drop_left]
  have hread := readPacketNumber_bytes hpn hlen data
  rw [← hdrop] at hread
  have hle : ¬ (shortHeaderBytes connID pn pnLen kp ++ data).length < 1 + pnLen + connID.len := by
    rw [List.length_append, hlength, shortHeaderLen]
    omega
  rw [shortHeaderBytes, List.cons_append] at hread hle ⊢
  unfold parseShortHeader
  simp only [if_neg hshort, if_neg hquic, hbits, if_neg hle, hread, hkp, hreserved, decide_true,
    shortHeaderLen]

/-! ## long headers -/

/-- The mask of the first byte of a long header leaves its upper half alone. -/
theorem and_xor_mask (a m : UInt8) {k l : UInt8} (h : k &&& l = 0) :
    (a ^^^ (m &&& k)) &&& l = a &&& l := by
  have hkl : k.toNat &&& l.toNat = 0 := by
    rw [← UInt8.toNat_and, h]
    rfl
  apply UInt8.toNat.inj
  rw [UInt8.toNat_and, UInt8.toNat_xor, UInt8.toNat_and, Nat.and_xor_distrib_right, Nat.and_assoc,
    hkl, Nat.and_zero, Nat.xor_zero, UInt8.toNat_and]

/-- The type is in two bits of the first byte. -/
theorem packetTypeOf_congr {a b : UInt8} (h : a &&& 0x30 = b &&& 0x30) (v : Version) :
    packetTypeOf a v = packetTypeOf b v := by
  have hbits : ∀ x : UInt8, (x >>> 4 &&& 0b11 : UInt8) = (x &&& 0x30) >>> 4 := fun x => by
    apply UInt8.toNat.inj
    simp [UInt8.toNat_and, UInt8.toNat_shiftRight, Nat.shiftRight_and_distrib]
  simp only [packetTypeOf, hbits, h]

theorem longFirstByte_flags : ∀ v ∈ SupportedVersions, ∀ pnLen ∈ [1, 2, 3, 4],
    ∀ t ∈ [PacketType.initial, .handshake, .zeroRTT],
      let first := (0xc0 : UInt8) ||| packetTypeBits v (some t) <<< 4 ||| UInt8.ofNat (pnLen - 1)
      first &&& 0x80 = 0x80 ∧ first &&& 0x40 = 0x40 ∧ packetTypeOf first v = t ∧
        (first &&& 0x3).toNat + 1 = pnLen ∧ first &&& 0xc = 0 := by
  decide

theorem bigEndianUint32_putUint32 : ∀ v ∈ SupportedVersions, ∀ x : UInt8,
    bigEndianUint32 (putUint32 v ++ [x]) = v := by
  simp only [SupportedVersions, List.forall_mem_cons, List.not_mem_nil, false_implies, implies_true,
    and_true]
  exact ⟨fun _ => rfl, fun _ => rfl⟩

theorem encodes_lengthBytes {i : Nat} (h : i < 2 ^ 14) : Encodes (lengthBytes i) i := by
  unfold lengthBytes
  by_cases hsmall : i ≤ 63
  · rw [if_pos hsmall]
    have htwo := Encodes.two (x := 0x40) (by decide) (UInt8.ofNat i)
    have hvalue : (UInt8.ofNat i).toNat + Quicvarint.valueBits 0x40 <<< 8 = i := by
      rw [UInt8.toNat_ofNat', Nat.mod_eq_of_lt (by omega)]
      rfl
    rwa [hvalue] at htwo
  · rw [if_neg hsmall]
    exact Quicvarint.encodes_encode (by omega)

namespace Header

variable (c : ConnectionID)

theorem reads_takeConnectionID {n : Nat} (hn : n = c.len)
    (h : n ≤ MaxConnIDLen) : Reads (takeConnectionID n h) () c.bytes c () := by
  subst hn
  intro rest
  simp [takeConnectionID, ConnectionID.len]

variable {h : ExtendedHeader}

theorem reads_parseRest (hh : h.Packable) (hlength : h.length < 2 ^ 14) (hdr : Header)
    (htype : hdr.type = h.type) (htoken : hdr.token = []) :
    Reads (parseRest hdr) () (h.tokenBytes ++ lengthBytes h.length)
      { hdr with token := h.token, length := h.length } () := by
  have hlen : Reads (Quicvarint.parse : Parse HeaderError Unit Nat) () (lengthBytes h.length)
      h.length () := (encodes_lengthBytes hlength).reads_parse
  unfold parseRest
  by_cases hinitial : h.type = some .initial
  · have htokenLen : Reads (Quicvarint.parse : Parse HeaderError Unit Nat) ()
        (encode h.token.length) h.token.length () := Quicvarint.reads_parse hh.token_lt
    rw [htype, hinitial, ExtendedHeader.tokenBytes, if_pos hinitial, List.append_assoc]
    exact htokenLen.bind ((reads_takeSlice h.token ()).bind hlen.bind_pure)
  · have hnone := hh.token hinitial
    rw [htype, ExtendedHeader.tokenBytes, if_neg hinitial, List.nil_append, hnone, ← htoken]
    obtain ht | ht | ht := hh.type
    · exact absurd ht hinitial
    · rw [ht]
      exact hlen.bind_pure
    · rw [ht]
      exact hlen.bind_pure

/-- The fields of the header that the packet has. -/
def fields (h : ExtendedHeader) : Header where
  type := h.type
  version := h.version
  srcConnectionID := h.srcConnectionID
  destConnectionID := h.destConnectionID
  length := h.length
  token := h.token

theorem reads_takeDest {n : Nat} (hn : n = c.len) (h : n ≤ MaxConnIDLen) (x : UInt8) :
    Reads (fun s b =>
      if b.length < n + 1 then (.error .eof, s, b)
      else (do
        let destConnectionID ← takeConnectionID n h
        let srcConnIDLen ← readByte
        return (destConnectionID, srcConnIDLen.toNat) :
          Parse HeaderError Unit (ConnectionID × Nat)) s b)
      () (c.bytes ++ [x]) (c, x.toNat) () := by
  intro rest
  have hbyte : Reads (readByte : Parse HeaderError Unit UInt8) () [x] x () := fun _ => rfl
  have hread : Reads (do
      let destConnectionID ← takeConnectionID n h
      let srcConnIDLen ← readByte
      return (destConnectionID, srcConnIDLen.toNat) :
        Parse HeaderError Unit (ConnectionID × Nat)) () (c.bytes ++ [x]) (c, x.toNat) () :=
    (reads_takeConnectionID c hn h).bind hbyte.bind_pure
  dsimp only
  rw [if_neg (by simp [hn, ConnectionID.len]), hread rest]

theorem toNat_len : (UInt8.ofNat c.len).toNat = c.len := by
  have hle := c.length_le
  unfold ConnectionID.len MaxConnIDLen at *
  rw [UInt8.toNat_ofNat', Nat.mod_eq_of_lt (by omega)]

theorem reads_parseLongHeader (hh : h.Packable) (hlength : h.length < 2 ^ 14)
    (hv : h.version ∈ SupportedVersions) {typeByte : UInt8} (hquic : typeByte &&& 0x40 ≠ 0)
    (htype : h.type = some (packetTypeOf typeByte h.version)) :
    Reads (parseLongHeader typeByte) () h.middle (fields h) () := by
  have hzero : h.version ≠ 0 := fun hzero => absurd hv (by rw [hzero]; decide)
  set x := UInt8.ofNat h.destConnectionID.len with hx
  have hversion := bigEndianUint32_putUint32 h.version hv x
  have hdestLen : ((putUint32 h.version ++ [x]).getD 4 0).toNat = h.destConnectionID.len :=
    toNat_len h.destConnectionID
  have hmiddle : h.middle = (putUint32 h.version ++ [x]) ++
      ((h.destConnectionID.bytes ++ [UInt8.ofNat h.srcConnectionID.len]) ++
        (h.srcConnectionID.bytes ++ (h.tokenBytes ++ lengthBytes h.length))) := by
    simp [ExtendedHeader.middle, hx]
  have hrest := reads_parseRest hh hlength {
    type := some (packetTypeOf typeByte h.version)
    version := h.version
    destConnectionID := h.destConnectionID
    srcConnectionID := h.srcConnectionID } htype.symm rfl
  have hsrcLen := toNat_len h.srcConnectionID
  have hdest := not_lt.mpr (hdestLen.trans_le h.destConnectionID.length_le)
  have hsrc := not_lt.mpr (hsrcLen.trans_le h.srcConnectionID.length_le)
  rw [hmiddle]
  unfold parseLongHeader
  refine (reads_takeSlice (putUint32 h.version ++ [x]) ()).bind ?_
  simp only [hversion]
  refine Reads.guard (fun hc => hquic hc.2) ?_
  rw [dif_neg hdest]
  refine (reads_takeDest h.destConnectionID hdestLen (not_lt.mp hdest) _).bind ?_
  dsimp only
  rw [dif_neg hsrc]
  refine (reads_takeConnectionID h.srcConnectionID hsrcLen (not_lt.mp hsrc)).bind ?_
  rw [if_neg hzero, if_neg (not_not.mpr hv)]
  have hfields : fields h = { fields h with type := some (packetTypeOf typeByte h.version) } := by
    rw [← htype]
    rfl
  rw [hfields]
  exact hrest

/-- **`ParsePacket`** reads a long header whose first byte and packet number may be masked, and cuts
off the packet. -/
theorem parsePacket_middle (hh : h.Packable) (hlength : h.length < 2 ^ 14)
    (hv : h.version ∈ SupportedVersions) {typeByte : UInt8} (hlong : typeByte &&& 0x80 ≠ 0)
    (hquic : typeByte &&& 0x40 ≠ 0) (htype : h.type = some (packetTypeOf typeByte h.version))
    {body : Bytes} (hbody : body.length = h.length) (rest : Bytes) :
    parsePacket (typeByte :: (h.middle ++ body) ++ rest) =
      .ok ({ fields h with parsedLen := h.middle.length + 1 }, typeByte :: (h.middle ++ body),
        rest) := by
  have hisLong : isLongHeaderPacket typeByte = true :=
    decide_eq_true (UInt8.pos_iff_ne_zero.mpr hlong)
  have hparse := reads_parseLongHeader hh hlength hv hquic htype (body ++ rest)
  have hheader : parseHeader (typeByte :: (h.middle ++ (body ++ rest))) =
      .ok { fields h with parsedLen := h.middle.length + 1 } := by
    simp only [parseHeader, hparse, List.length_append, Nat.add_sub_cancel]
  have hpacket : h.middle.length + 1 + (fields h).length =
      (typeByte :: (h.middle ++ body)).length := by
    rw [List.length_cons, List.length_append, hbody]
    change h.middle.length + 1 + h.length = _
    omega
  have hdata : typeByte :: (h.middle ++ body) ++ rest = typeByte :: (h.middle ++ (body ++ rest)) := by
    rw [List.cons_append, List.append_assoc]
  have hle : ¬ (typeByte :: (h.middle ++ body) ++ rest).length <
      (typeByte :: (h.middle ++ body)).length := by
    rw [List.length_append]
    omega
  rw [hdata]
  simp only [parsePacket, hisLong, Bool.true_eq_false, if_false, hheader, Outcome.ok_bind, hpacket]
  rw [← hdata, if_neg hle, List.take_left, List.drop_left]
  rfl

end Header

theorem ExtendedHeader.Packable.exists_type {h : ExtendedHeader} (hh : h.Packable) :
    ∃ t, h.type = some t ∧ t ∈ [PacketType.initial, .handshake, .zeroRTT] := by
  obtain ht | ht | ht := hh.type
  · exact ⟨.initial, ht, by decide⟩
  · exact ⟨.handshake, ht, by decide⟩
  · exact ⟨.zeroRTT, ht, by decide⟩

/-- **`ParseExtended`** reads the first byte and the packet number when they are unmasked. -/
theorem parseExtended_bytes {h : ExtendedHeader} (hh : h.Packable)
    (hv : h.version ∈ SupportedVersions) (hpn : 0 ≤ h.packetNumber) (hdr : Header)
    (hparsed : hdr.parsedLen = h.middle.length + 1) (data : Bytes) :
    hdr.parseExtended (h.bytes h.version ++ data) =
      .ok ({ hdr with
        packetNumberLen := h.packetNumberLen
        packetNumber := h.packetNumber % (2 ^ (8 * h.packetNumberLen) : Nat)
        parsedExtLen := h.middle.length + 1 + h.packetNumberLen }, true) := by
  obtain ⟨t, ht, hmem⟩ := hh.exists_type
  obtain ⟨-, -, -, hbits, hreserved⟩ :=
    longFirstByte_flags h.version hv h.packetNumberLen (mem_lengths hh.pnLen) t hmem
  rw [← ht] at hbits hreserved
  change (h.firstByte h.version &&& 0x3).toNat + 1 = h.packetNumberLen at hbits
  change h.firstByte h.version &&& 0xc = 0 at hreserved
  have hdata : h.bytes h.version ++ data = h.firstByte h.version ::
      (h.middle ++ (packetNumberBytes h.packetNumber h.packetNumberLen ++ data)) := by
    rw [ExtendedHeader.bytes, List.cons_append, List.append_assoc]
  have hlen := length_packetNumberBytes h.packetNumber hh.pnLen
  have hle : ¬ (h.firstByte h.version :: (h.middle ++
      (packetNumberBytes h.packetNumber h.packetNumberLen ++ data))).length <
        h.middle.length + 1 + h.packetNumberLen := by
    simp only [List.length_cons, List.length_append, hlen]
    lia
  have hread := readPacketNumber_bytes hpn hh.pnLen data
  rw [hdata]
  simp only [Header.parseExtended, hparsed, hbits, if_neg hle, List.drop_succ_cons, List.drop_left,
    hread, hreserved, decide_true]

/-! ## packets -/

section Encrypted

variable (sealer : Sealer) (pn : PacketNumber) (firstByte : UInt8) (mid pnBytes body hdr raw : Bytes)

theorem encryptPacket_parts (hhdr : hdr = firstByte :: (mid ++ pnBytes))
    (hraw : raw = encryptPacket (hdr ++ body) sealer pn hdr.length pnBytes.length) :
    raw = sealer.hp.applyAt
      (firstByte :: (mid ++ (pnBytes ++ sealer.sealed body pn hdr))) (mid.length + 1)
      pnBytes.length := by
  have hoff : hdr.length - pnBytes.length = mid.length + 1 := by
    rw [hhdr, List.length_cons, List.length_append]
    omega
  have hparts : hdr ++ sealer.sealed body pn hdr =
      firstByte :: (mid ++ (pnBytes ++ sealer.sealed body pn hdr)) := by
    rw [hhdr, List.cons_append, List.append_assoc]
  rw [← hparts, hraw]
  simp [encryptPacket, hoff]

/-- Only the first byte and the packet number are masked. -/
theorem encryptPacket_masked (hpn : pnBytes.length ≤ 4) (hhdr : hdr = firstByte :: (mid ++ pnBytes))
    (hraw : raw = encryptPacket (hdr ++ body) sealer pn hdr.length pnBytes.length) :
    ∃ sample masked, raw = (sealer.hp.apply sample firstByte pnBytes).1 :: (mid ++ masked) ∧
      masked.length = pnBytes.length + (body.length + sealerOverhead) := by
  refine ⟨_, _, (encryptPacket_parts sealer pn firstByte mid pnBytes body hdr raw hhdr hraw).trans
    (sealer.hp.applyAt_append firstByte mid pnBytes _ rfl hpn), ?_⟩
  rw [List.length_append, sealer.hp.length_apply _ _ _ hpn, sealer.length_sealed]

/-- **The receiver of an encrypted packet**: when four bytes are unmasked it can read the header, and
when the bytes behind the packet number are restored it has the sealed packet. -/
theorem receive_encryptPacket (hpn : pnBytes.length ≤ 4)
    (hhdr : hdr = firstByte :: (mid ++ pnBytes))
    (hraw : raw = encryptPacket (hdr ++ body) sealer pn hdr.length pnBytes.length) :
    ∃ tail, sealer.hp.applyAt raw (mid.length + 1) 4 = hdr ++ tail ∧
      PacketUnpacker.restorePNBytes raw (sealer.hp.applyAt raw (mid.length + 1) 4)
        (mid.length + 1) pnBytes.length = hdr ++ sealer.sealed body pn hdr := by
  have hparts : ∀ bs, hdr ++ bs = firstByte :: (mid ++ (pnBytes ++ bs)) := fun bs => by
    rw [hhdr, List.cons_append, List.append_assoc]
  have hsealed : 4 ≤ pnBytes.length + (sealer.sealed body pn hdr).length := by
    rw [sealer.length_sealed, sealerOverhead]
    omega
  obtain ⟨tail, hunmask, hrestore⟩ := PacketUnpacker.restorePNBytes_applyAt sealer.hp firstByte mid
    pnBytes (sealer.sealed body pn hdr) rfl hpn hsealed
  rw [← encryptPacket_parts sealer pn firstByte mid pnBytes body hdr raw hhdr hraw]
    at hunmask hrestore
  exact ⟨tail, hunmask.trans (hparts tail).symm, hrestore.trans (hparts _).symm⟩

end Encrypted

section Short

variable {pn : PacketNumber} {pnLen : Nat} {connID : ConnectionID} {kp : KeyPhaseBit} {pl : Payload}

/-- **Short header packets**: the unpacker gets back what was sealed. -/
theorem unpackShort_shortRaw (rand : Shuffle) (padding : Nat) {sealer : Sealer} {u : PacketUnpacker}
    {opener : ShortHeaderOpener} {rcvTime : Time} (hpl : pl.Consistent) (hne : 0 < pl.length)
    (hpn : 0 ≤ pn) (hlen : 1 ≤ pnLen ∧ pnLen ≤ 4) (hu : u.get1RTTOpener = .ok opener)
    (hconnID : u.shortHdrConnIDLen = connID.len) (hopens : opener.Opens sealer rcvTime kp)
    (hdecode : opener.decodePacketNumber (pn % (2 ^ (8 * pnLen) : Nat)) pnLen = pn) :
    u.unpackShort rcvTime (shortRaw rand pl padding sealer connID pn pnLen kp) = .ok {
      packetNumber := pn
      packetNumberLen := pnLen
      keyPhase := kp
      data := (pl.shuffled rand).body (minPadding pnLen pl + padding) } := by
  have hrawLen := length_shortRaw rand padding sealer hpl hlen connID pn kp
  have hpnBytes := length_packetNumberBytes pn hlen
  have hhdr := length_shortHeaderBytes hlen connID pn kp
  have hbody := length_body (hpl.shuffled rand) (minPadding pnLen pl + padding)
  rw [shuffled_length] at hbody
  obtain ⟨tail, hunmask, hrestore⟩ := receive_encryptPacket sealer pn (shortFirstByte pnLen kp)
    connID.bytes (packetNumberBytes pn pnLen)
    ((pl.shuffled rand).body (minPadding pnLen pl + padding)) (shortHeaderBytes connID pn pnLen kp)
    (shortRaw rand pl padding sealer connID pn pnLen kp) (hpnBytes.trans_le hlen.2) rfl
    (by rw [hpnBytes]; rfl)
  have hoff : connID.bytes.length + 1 = 1 + connID.len := Nat.add_comm _ _
  rw [hpnBytes, hoff] at hrestore
  rw [hoff] at hunmask
  have hbig : ¬ (shortRaw rand pl padding sealer connID pn pnLen kp).length <
      1 + connID.len + 4 + 16 := by
    have hfour := four_le_minPadding pnLen pl
    rw [hrawLen, shortHeaderPacketLength, shortHeaderLen, sealerOverhead]
    omega
  have hparse := parseShortHeader_bytes hpn hlen connID kp tail
  rw [← hunmask] at hparse
  have hunpack : PacketUnpacker.unpackShortHeader connID.len sealer.hp
      (shortRaw rand pl padding sealer connID pn pnLen kp) = .ok ({
        length := shortHeaderLen connID pnLen
        packetNumber := pn % (2 ^ (8 * pnLen) : Nat)
        packetNumberLen := pnLen
        keyPhase := kp }, true, shortHeaderBytes connID pn pnLen kp ++
          sealer.sealed ((pl.shuffled rand).body (minPadding pnLen pl + padding)) pn
            (shortHeaderBytes connID pn pnLen kp)) := by
    simp only [PacketUnpacker.unpackShortHeader, if_neg hbig, hparse, hrestore]
  have hdata : ¬ ((pl.shuffled rand).body (minPadding pnLen pl + padding)).length = 0 := by omega
  simp only [PacketUnpacker.unpackShort, hu, hconnID, Except.mapError, Outcome.ok_bind,
    PacketUnpacker.unpackShortHeaderPacket, hopens.hp_eq, hunpack, hdecode, ← hhdr, List.drop_left,
    List.take_left, hopens.opened_sealed, if_true, pure, Except.pure, if_neg hdata]

end Short

section Long

variable {pl : Payload} {header : ExtendedHeader}

theorem masked_firstByte {hp : HeaderProtector} (hlong : hp.isLongHeader = true)
    (sample : Bytes) (firstByte : UInt8) (hdrBytes : Bytes) {l : UInt8} (hl : 0xf &&& l = 0) :
    (hp.apply sample firstByte hdrBytes).1 &&& l = firstByte &&& l := by
  simp only [HeaderProtector.apply, hlong, if_true]
  exact and_xor_mask firstByte _ hl

/-- **Long header packets**: `ParsePacket` cuts off the packet, and the unpacker gets back what was
sealed. -/
theorem unpackLong_longRaw (rand : Shuffle) (padding : Nat) {sealer : LongHeaderSealer}
    {u : PacketUnpacker} {level : EncryptionLevel} {opener : LongHeaderOpener}
    (hpl : pl.Consistent) (hne : 0 < pl.length) (hh : header.Packable)
    (hlength : (withLength pl padding header).length < 2 ^ 14)
    (hv : header.version ∈ SupportedVersions) (hpn : 0 ≤ header.packetNumber)
    (hu : u.longHeaderOpener header.type = .ok (level, opener)) (hopens : opener.Opens sealer)
    (hdecode : opener.decodePacketNumber
      (header.packetNumber % (2 ^ (8 * header.packetNumberLen) : Nat)) header.packetNumberLen =
        header.packetNumber) (rest : Bytes) :
    ∃ hdr : Header,
      Header.parsePacket (longRaw rand pl padding sealer.toSealer header header.version ++ rest) =
        .ok (hdr, longRaw rand pl padding sealer.toSealer header header.version, rest) ∧
      hdr = { Header.fields (withLength pl padding header) with
        parsedLen := (withLength pl padding header).middle.length + 1 } ∧
      u.unpackLong hdr (longRaw rand pl padding sealer.toSealer header header.version) = .ok {
        hdr := { hdr with
          packetNumber := header.packetNumber
          packetNumberLen := header.packetNumberLen
          parsedExtLen := ((withLength pl padding header).bytes header.version).length }
        encryptionLevel := level
        data := (pl.shuffled rand).body (minPadding header.packetNumberLen pl + padding) } := by
  set h := withLength pl padding header
  set v := header.version
  set raw := longRaw rand pl padding sealer.toSealer header v
  set body := (pl.shuffled rand).body (minPadding header.packetNumberLen pl + padding) with hbody
  have hh' : h.Packable := withLength_packable padding hh
  have hpnBytes := length_packetNumberBytes header.packetNumber hh.pnLen
  have hbodyLen : body.length = pl.length + (minPadding header.packetNumberLen pl + padding) := by
    rw [hbody, length_body (hpl.shuffled rand), shuffled_length]
  have hrawEq : raw = encryptPacket (h.bytes v ++ body) sealer.toSealer header.packetNumber
      (h.bytes v).length
      (packetNumberBytes header.packetNumber header.packetNumberLen).length := by
    rw [hpnBytes]
    rfl
  have hhdrLen : (h.bytes v).length = h.middle.length + 1 + header.packetNumberLen := by
    have hbytes : h.bytes v = h.firstByte v ::
        (h.middle ++ packetNumberBytes header.packetNumber header.packetNumberLen) := rfl
    rw [hbytes, List.length_cons, List.length_append, hpnBytes]
    lia
  obtain ⟨t, ht, hmem⟩ := hh.exists_type
  obtain ⟨hlong, hquic, htype, -⟩ :=
    longFirstByte_flags v hv header.packetNumberLen (mem_lengths hh.pnLen) t hmem
  rw [← ht] at hlong hquic htype
  -- what `ParsePacket` sees
  obtain ⟨sample, masked, hmasked, hmaskedLen⟩ := encryptPacket_masked sealer.toSealer
    header.packetNumber (h.firstByte v) h.middle
    (packetNumberBytes header.packetNumber header.packetNumberLen) body (h.bytes v) raw
    (hpnBytes.trans_le hh.pnLen.2) rfl hrawEq
  have hmaskedLength : masked.length = h.length := by
    rw [hmaskedLen, hpnBytes, hbodyLen]
    change _ = header.packetNumberLen + sealerOverhead + pl.length +
      (minPadding header.packetNumberLen pl + padding)
    lia
  have hand : ∀ l : UInt8, 0xf &&& l = 0 →
      (sealer.hp.apply sample (h.firstByte v) (packetNumberBytes header.packetNumber
        header.packetNumberLen)).1 &&& l = h.firstByte v &&& l := fun _ hl =>
    masked_firstByte sealer.longHeader sample _ _ hl
  have hparse := Header.parsePacket_middle hh' hlength hv
    (by rw [hand 0x80 (by decide)]; exact hlong.trans_ne (by decide))
    (by rw [hand 0x40 (by decide)]; exact hquic.trans_ne (by decide))
    (by rw [packetTypeOf_congr (hand 0x30 (by decide))]; exact ht.trans (congrArg some htype.symm))
    hmaskedLength rest
  rw [← hmasked] at hparse
  refine ⟨_, hparse, rfl, ?_⟩
  -- what the unpacker sees
  obtain ⟨tail, hunmask, hrestore⟩ := receive_encryptPacket sealer.toSealer header.packetNumber
    (h.firstByte v) h.middle (packetNumberBytes header.packetNumber header.packetNumberLen) body
    (h.bytes v) raw (hpnBytes.trans_le hh.pnLen.2) rfl hrawEq
  rw [hpnBytes] at hrestore
  have hbig : ¬ raw.length < h.middle.length + 1 + 4 + 16 := by
    have hfour := four_le_minPadding header.packetNumberLen pl
    rw [hmasked, List.length_cons, List.length_append, hmaskedLen, hpnBytes, hbodyLen,
      sealerOverhead]
    lia
  have hext := parseExtended_bytes hh' hv hpn
    { Header.fields h with parsedLen := h.middle.length + 1 } rfl tail
  have hdata : ¬ body.length = 0 := by omega
  change Header.parseExtended _ (h.bytes v ++ tail) = _ at hext
  rw [← hunmask] at hext
  have hunpack : PacketUnpacker.unpackLongHeader sealer.hp
      { Header.fields h with parsedLen := h.middle.length + 1 } raw = .ok
        ({ Header.fields h with
            parsedLen := h.middle.length + 1
            packetNumberLen := header.packetNumberLen
            packetNumber := header.packetNumber % (2 ^ (8 * header.packetNumberLen) : Nat)
            parsedExtLen := (h.bytes v).length }, true,
          h.bytes v ++ sealer.sealed body header.packetNumber (h.bytes v)) := by
    simp only [PacketUnpacker.unpackLongHeader, if_neg hbig, hext, hhdrLen]
    change Except.ok (_, _, PacketUnpacker.restorePNBytes raw _ _ header.packetNumberLen) = _
    rw [hrestore]
    rfl
  have hopener : u.longHeaderOpener (Header.fields h).type = .ok (level, opener) := hu
  simp only [PacketUnpacker.unpackLong, hopener, Outcome.ok_bind,
    PacketUnpacker.unpackLongHeaderPacket, hopens.hp_eq, hunpack, hdecode, List.drop_left,
    List.take_left, hopens.opened_sealed, Except.mapError, if_true, pure, Except.pure,
    if_neg hdata]

end Long

/-- **Round trip**: a packet with a non-empty payload that fits in the buffer is packed, and the
receiver with the right keys unpacks it: it gets the packet number, its length, the key phase and
the payload, with the padding behind the ACK frame. -/
theorem unpack_append (rand : Shuffle) (pnManager m : PacketNumberManager) (buffer : PacketBuffer)
    (pl : Payload) (padding draw : Nat) (u : PacketUnpacker) (hpl : pl.Consistent)
    (hne : 0 < pl.length) :
    (∀ (sealer : ShortHeaderSealer) (opener : ShortHeaderOpener) (rcvTime : Time)
      (connID : ConnectionID) (pn : PacketNumber) (pnLen : PacketNumberLen) (kp : KeyPhaseBit)
      (maxPacketSize : Nat) (isMTUProbePacket : Bool),
      0 ≤ pn → 1 ≤ pnLen ∧ pnLen ≤ 4 →
      u.get1RTTOpener = .ok opener → u.shortHdrConnIDLen = connID.len →
      opener.Opens sealer.toSealer rcvTime kp →
      opener.decodePacketNumber (pn % (2 ^ (8 * pnLen) : Nat)) pnLen = pn →
      pnManager.popPacketNumber .oneRTT draw = (pn, m) →
      (isMTUProbePacket = false →
        shortHeaderPacketLength connID pnLen pl + padding + sealerOverhead ≤ maxPacketSize) →
      buffer.data.length + (shortHeaderPacketLength connID pnLen pl + padding + sealerOverhead) ≤
        buffer.cap →
      ∃ packet b raw,
        appendShortHeaderPacket rand pnManager buffer connID pn pnLen kp pl padding maxPacketSize
          sealer.toSealer isMTUProbePacket draw = .ok (packet, b, m) ∧
        b.data = buffer.data ++ raw ∧ packet.length = raw.length ∧
        u.unpackShort rcvTime raw = .ok {
          packetNumber := pn
          packetNumberLen := pnLen
          keyPhase := kp
          data := (pl.shuffled rand).body (minPadding pnLen pl + padding) }) ∧
    (∀ (sealer : LongHeaderSealer) (opener : LongHeaderOpener) (level : EncryptionLevel)
      (header : ExtendedHeader) (headerLen : Nat),
      header.Packable → header.version ∈ SupportedVersions → 0 ≤ header.packetNumber →
      u.longHeaderOpener header.type = .ok (level, opener) → opener.Opens sealer →
      opener.decodePacketNumber
        (header.packetNumber % (2 ^ (8 * header.packetNumberLen) : Nat)) header.packetNumberLen =
          header.packetNumber →
      pnManager.popPacketNumber level draw = (header.packetNumber, m) →
      (withLength pl padding header).length < 2 ^ 14 → header.getLength = .ok headerLen →
      buffer.data.length + (headerLen + pl.length + minPadding header.packetNumberLen pl + padding +
        sealerOverhead) ≤ buffer.cap →
      ∃ packet b raw,
        appendLongHeaderPacket rand pnManager buffer header pl padding level sealer.toSealer
          header.version draw = .ok (packet, b, m) ∧
        b.data = buffer.data ++ raw ∧ packet.length = raw.length ∧
        ∀ rest, ∃ hdr, Header.parsePacket (raw ++ rest) = .ok (hdr, raw, rest) ∧
          (hdr.type = header.type ∧ hdr.version = header.version ∧ hdr.token = header.token ∧
            hdr.srcConnectionID = header.srcConnectionID ∧
            hdr.destConnectionID = header.destConnectionID) ∧
          u.unpackLong hdr raw = .ok {
            hdr := { hdr with
              packetNumber := header.packetNumber
              packetNumberLen := header.packetNumberLen
              parsedExtLen := headerLen }
            encryptionLevel := level
            data := (pl.shuffled rand).body (minPadding header.packetNumberLen pl + padding) }) := by
  constructor
  · intro sealer opener rcvTime connID pn pnLen kp maxPacketSize isMTUProbePacket hpn hlen hu hconnID
      hopens hdecode hpop hmax hcap
    have hraw := length_shortRaw rand padding sealer.toSealer hpl hlen connID pn kp
    have hb : (buffer.data ++ shortRaw rand pl padding sealer.toSealer connID pn pnLen kp).length ≤
        buffer.cap := by
      rw [List.length_append, hraw]
      exact hcap
    refine ⟨_, ⟨_, _, hb⟩, _, (appendShortHeaderPacket_eq_ok_iff rand padding sealer.toSealer hpl
      hlen).mpr ⟨fun h => hraw.trans_le (hmax h), hraw ▸ hcap, hpop, rfl, rfl, rfl⟩, rfl, rfl, ?_⟩
    exact unpackShort_shortRaw rand padding hpl hne hpn hlen hu hconnID hopens hdecode
  · intro sealer opener level header headerLen hh hv hpn hu hopens hdecode hpop hlength hheader hcap
    have hgetLength := ExtendedHeader.getLength_eq (withLength_packable padding hh) hlength
      header.version
    -- the length that the header contains doesn't matter
    change header.getLength = _ at hgetLength
    rw [hheader, Except.ok.injEq] at hgetLength
    have hraw := length_longRaw rand padding sealer.toSealer hpl hh header.version
    rw [← hgetLength] at hraw
    have hb : (buffer.data ++ longRaw rand pl padding sealer.toSealer header header.version).length ≤
        buffer.cap := by
      rw [List.length_append, hraw]
      exact hcap
    refine ⟨_, ⟨_, _, hb⟩, _, (appendLongHeaderPacket_eq_ok_iff rand padding sealer.toSealer hpl hh
      hlength).mpr ⟨hraw ▸ hcap, hpop, rfl, rfl, rfl⟩, rfl, rfl, fun rest => ?_⟩
    obtain ⟨hdr, hparse, hfields, hunpack⟩ := unpackLong_longRaw rand padding hpl hne hh hlength hv
      hpn hu hopens hdecode rest
    rw [← hgetLength] at hunpack
    refine ⟨hdr, hparse, ?_, hunpack⟩
    rw [hfields]
    exact ⟨rfl, rfl, rfl, rfl, rfl⟩

/-- A mask that doesn't depend on the sample. -/
def constantProtector (isLongHeader : Bool) : HeaderProtector where
  mask _ := [0xa5, 1, 2, 3, 4]
  length_mask _ := Nat.le_refl 5
  isLongHeader := isLongHeader

/-- A sealer that only adds a tag. -/
def tagSealer (isLongHeader : Bool) : Sealer where
  sealed src _ _ := src ++ List.replicate sealerOverhead 0
  length_sealed _ _ _ := by simp
  hp := constantProtector isLongHeader

/-- The receiver of packets with the number 7. -/
def tagUnpacker : PacketUnpacker where
  getInitialOpener := .ok {
    decodePacketNumber := fun _ _ => 7
    opened := fun src _ _ => .ok (src.take (src.length - sealerOverhead))
    hp := constantProtector true }
  getHandshakeOpener := .error .notYetAvailable
  get0RTTOpener := .error .notYetAvailable
  get1RTTOpener := .ok {
    decodePacketNumber := fun _ _ => 7
    opened := fun src _ _ _ _ => .ok (src.take (src.length - sealerOverhead))
    hp := constantProtector false }
  shortHdrConnIDLen := 4

/-- A PING frame is padded to three bytes when the packet number has one byte. -/
theorem unpack_append_ping :
    let numbers : NumberSpace := { pns := { next := 7 } }
    let manager : PacketNumberManager := ⟨numbers, numbers, numbers⟩
    let connID : ConnectionID := ⟨[1, 2, 3, 4], by decide⟩
    let pl : Payload := { frames := [.ping], length := 1 }
    let header : ExtendedHeader := {
      type := some .initial, version := Version1, srcConnectionID := connID,
      destConnectionID := connID, token := [9, 9], packetNumberLen := 1, packetNumber := 7 }
    (∃ packet b m raw, appendShortHeaderPacket ⟨id, fun _ => .refl _⟩ manager
        PacketBuffer.getPacketBuffer connID 7 1 .one pl 0 1200 (tagSealer false) false 0 =
          .ok (packet, b, m) ∧ b.data = [] ++ raw ∧
        tagUnpacker.unpackShort 0 raw = .ok {
          packetNumber := 7, packetNumberLen := 1, keyPhase := .one, data := [0, 0, 1] }) ∧
    (∃ packet b m raw hdr, appendLongHeaderPacket ⟨id, fun _ => .refl _⟩ manager
        PacketBuffer.getPacketBuffer header pl 0 .initial (tagSealer true) Version1 0 =
          .ok (packet, b, m) ∧ Header.parsePacket (raw ++ [1]) = .ok (hdr, raw, [1]) ∧
        hdr.token = [9, 9] ∧ (tagUnpacker.unpackLong hdr raw).map (·.data) = .ok [0, 0, 1]) := by
  intro numbers manager connID pl header
  have hpl : pl.Consistent := ⟨fun f hf => by rw [List.mem_singleton.mp hf]; rfl, rfl⟩
  have hshort := fun m => (unpack_append ⟨id, fun _ => .refl _⟩ manager m
    PacketBuffer.getPacketBuffer pl 0 0 tagUnpacker hpl (by decide)).1
  have hlong := fun m => (unpack_append ⟨id, fun _ => .refl _⟩ manager m
    PacketBuffer.getPacketBuffer pl 0 0 tagUnpacker hpl (by decide)).2
  constructor
  · obtain ⟨packet, b, raw, happend, hdata, -, hunpack⟩ := hshort _
      { tagSealer false with shortHeader := rfl, keyPhase := .one } _ 0 connID 7 1 .one 1200 false
      (by decide) (by decide) rfl rfl ⟨fun src _ _ => by simp [tagSealer], rfl⟩ rfl rfl
      (fun _ => by decide) (by decide)
    exact ⟨packet, b, _, raw, happend, hdata, hunpack⟩
  · obtain ⟨packet, b, raw, happend, -, -, hunpack⟩ := hlong _
      { tagSealer true with longHeader := rfl } _ .initial header _
      ⟨.inl rfl, fun h => absurd rfl h, by decide, by decide⟩ (by decide) (by decide) rfl
      ⟨fun src _ _ => by simp [tagSealer], rfl⟩ rfl rfl (by decide) rfl (by decide)
    obtain ⟨hdr, hparse, ⟨-, -, htoken, -⟩, hopen⟩ := hunpack [1]
    refine ⟨packet, b, _, raw, hdr, happend, hparse, htoken, ?_⟩
    rw [hopen]
    rfl

end Quic

end MoqQuic
