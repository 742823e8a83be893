import MoqQuic.Lib.Outcome
import MoqQuic.Quic.Frames.WellFormed

/-!
# MoqQuic.Quic.Frames.RoundTrip

A frame that the parser accepted is written so that the parser reads it back.

For every kind of frame, `Written` says what the three functions of the frame do on a frame with
checked fields: `append` adds the type and a body, `length` is the number of these bytes, and the
parse function reads the frame back from the body. The type may have changed on the way: an ACK
frame with zero ECN counts loses them, a RESET_STREAM_AT frame with reliable size 0 becomes a
RESET_STREAM frame, and a STREAM frame at offset 0 has no offset.
-/

namespace MoqQuic

open Parse

namespace Quic

open Quicvarint (encode)

/-! ## fields -/

variable {i : Nat}

@[simp]
theorem appendVarint_eq (h : i < 2 ^ 62) (b : Bytes) : appendVarint b i = .ok (b ++ encode i) := by
  simp only [appendVarint, Quicvarint.append_eq b h]

@[simp]
theorem appendVarintIf_eq (h : i < 2 ^ 62) (c : Bool) (b : Bytes) :
    appendVarintIf c b i = .ok (b ++ if c then encode i else []) := by
  cases c with
  | true => exact appendVarint_eq h b
  | false => simp [appendVarintIf]

@[simp]
theorem varintLen_eq (h : i < 2 ^ 62) : varintLen i = .ok (encode i).length := by
  rw [varintLen, Quicvarint.len_eq h]

theorem encode_small (h : i ≤ 63) : encode i = [UInt8.ofNat i] := by
  simp [encode, Quicvarint.append, Quicvarint.maxVarInt1, h]

theorem reads_parseVarint (h : i < 2 ^ 62) : Reads parseVarint () (encode i) i () :=
  (Quicvarint.reads_parse h).mapError

theorem reads_parseVarintIf {c : Bool} (h : i < 2 ^ 62) (hzero : c = false → i = 0) :
    Reads (parseVarintIf c) () (if c then encode i else []) i () := by
  cases c with
  | true => exact reads_parseVarint h
  | false =>
    rw [hzero rfl]
    exact Reads.pure 0 ()

/-- A stream count is not negative, so that its conversion keeps it. -/
theorem uint64_eq {z : Int} (h : 0 ≤ z) (hlt : z < 2 ^ 62) :
    ((uint64 z : Nat) : Int) = z ∧ uint64 z < 2 ^ 62 := by
  unfold uint64
  omega

/-! ## frames -/

/-- The frame does not extend to the end of the packet. -/
def WireFrame.Delimited : WireFrame → Prop
  | .stream f => f.dataLenPresent = true
  | .datagram f => f.dataLenPresent = true
  | _ => True

/-- What the three functions of a frame do with it. -/
structure Written (q : Parse FrameError Unit WireFrame) (f : WireFrame) (typ : Nat)
    (body : Bytes) : Prop where
  append : ∀ b, f.append b = .ok (b ++ (encode typ ++ body))
  length : f.length = .ok (encode typ ++ body).length
  reads : ∀ rest, f.Delimited ∨ rest = [] → q () (body ++ rest) = (.ok f, (), rest)

/-! ### frames of varints -/

section Varints

variable {α : Type} {parse : Parse FrameError Unit α} {a : α} {mk : α → WireFrame} {t v w : Nat}

theorem Written.of_varint (ht : t ≤ 63) (hv : v < 2 ^ 62)
    (happend : ∀ b, (mk a).append b = appendVarint (b ++ [UInt8.ofNat t]) v)
    (hlength : (mk a).length = do return 1 + (← varintLen v))
    (hreads : Reads parse () (encode v) a ()) :
    Written (do return mk (← parse)) (mk a) t (encode v) where
  append b := by
    rw [happend, appendVarint_eq hv, encode_small ht, List.append_assoc]
  length := by
    rw [hlength, varintLen_eq hv, encode_small ht, List.length_append]
    rfl
  reads rest _ := hreads.bind_pure rest

theorem Written.of_varints (ht : t ≤ 63) (hv : v < 2 ^ 62) (hw : w < 2 ^ 62)
    (happend : ∀ b, (mk a).append b = do appendVarint (← appendVarint (b ++ [UInt8.ofNat t]) v) w)
    (hlength : (mk a).length = do return 1 + (← varintLen v) + (← varintLen w))
    (hreads : Reads parse () (encode v ++ encode w) a ()) :
    Written (do return mk (← parse)) (mk a) t (encode v ++ encode w) where
  append b := by
    simp [happend, hv, hw, encode_small ht, -Nat.reducePow]
  length := by
    simp [hlength, hv, hw, encode_small ht, -Nat.reducePow]
    omega
  reads rest _ := hreads.bind_pure rest

end Varints

theorem reads_parseStreamCount {n : StreamNum} (h : 0 ≤ n) (hmax : n ≤ MaxStreamCount) :
    Reads parseStreamCount () (encode (uint64 n)) n () := by
  obtain ⟨heq, hlt⟩ := uint64_eq h (lt_of_le_of_lt hmax (by decide))
  have hread : Reads parseStreamCount () (encode (uint64 n) ++ []) (uint64 n : Int) () :=
    (reads_parseVarint hlt).bind (Reads.guard (by rw [heq]; exact not_lt.mpr hmax) (Reads.pure _ ()))
  rwa [heq, List.append_nil] at hread

theorem int64_eq {z : Int} (h : 0 ≤ z) (hmax : z ≤ MaxInt64) : int64 z = z := by
  unfold MaxInt64 at hmax
  exact Int.bmod_eq_of_le (by omega) (by omega)

/-- A duration of `d` units is encoded as `d`. -/
theorem uint64_units {z u d : Int} (hu : 0 < u) (h : 0 ≤ z) (hmax : z ≤ MaxInt64)
    (hd : z = u * d) (hunit : 1000 ≤ u) :
    ((uint64 (z.tdiv u) : Nat) : Int) = d ∧ uint64 (z.tdiv u) < 2 ^ 62 := by
  have hnonneg : 0 ≤ d := by
    by_contra hneg
    have := mul_neg_of_pos_of_neg hu (not_le.mp hneg)
    omega
  have hle : 1000 * d ≤ z := hd ▸ Int.mul_le_mul_of_nonneg_right hunit hnonneg
  unfold MaxInt64 at hmax
  rw [hd, Int.mul_tdiv_cancel_left d (by omega)]
  exact uint64_eq hnonneg (by omega)

/-- A maximum delay of whole microseconds is read back. -/
theorem decodeMaxAckDelay_encode {f : AckFrequencyFrame} (hnonneg : 0 ≤ f.requestMaxAckDelay)
    (hmax : f.requestMaxAckDelay ≤ MaxInt64) (hdvd : 1000 ∣ f.requestMaxAckDelay) :
    AckFrequencyFrame.decodeMaxAckDelay f.encodeMaxAckDelay = f.requestMaxAckDelay ∧
      f.encodeMaxAckDelay < 2 ^ 62 := by
  obtain ⟨d, hd⟩ := hdvd
  obtain ⟨heq, hlt⟩ := uint64_units (by decide) hnonneg hmax hd (le_refl _)
  have hscale : int64 (int64 (f.encodeMaxAckDelay : Nat) * 1000) = f.requestMaxAckDelay := by
    have hd64 : int64 d = d := int64_eq (by lia) (by lia)
    rw [AckFrequencyFrame.encodeMaxAckDelay, heq, hd64, Int.mul_comm d, ← hd, int64_eq hnonneg hmax]
  unfold AckFrequencyFrame.decodeMaxAckDelay
  rw [hscale, if_neg (not_lt.mpr hnonneg)]
  exact ⟨rfl, hlt⟩

theorem written_ackFrequency {f : AckFrequencyFrame} (h : (WireFrame.ackFrequency f).WellFormed)
    (hdvd : 1000 ∣ f.requestMaxAckDelay) :
    Written (do return .ackFrequency (← AckFrequencyFrame.parse)) (.ackFrequency f)
      FrameTypeAckFrequency
      (encode f.sequenceNumber ++ (encode f.ackElicitingThreshold ++
        (encode f.encodeMaxAckDelay ++ encode (uint64 f.reorderingThreshold)))) := by
  obtain ⟨hseq, haeth, ⟨hnonneg, hmax⟩, hrth⟩ := h
  obtain ⟨hdelay, hmad⟩ := decodeMaxAckDelay_encode hnonneg hmax hdvd
  obtain ⟨hthreshold, hlt⟩ := uint64_eq hrth.1 hrth.2
  have htype : FrameTypeAckFrequency < 2 ^ 62 := by decide
  have hsize : (encode FrameTypeAckFrequency).length = 2 := rfl
  refine ⟨fun b => ?_, ?_, fun rest _ => Reads.bind_pure ?_ rest⟩
  · simp [WireFrame.append, AckFrequencyFrame.append, htype, hseq, haeth, hmad, hlt,
      -Nat.reducePow]
  · simp [WireFrame.length, AckFrequencyFrame.length, hseq, haeth, hmad, hlt, hsize,
      -Nat.reducePow]
    omega
  · have hread : Reads AckFrequencyFrame.parse () _
        { f with
          requestMaxAckDelay := AckFrequencyFrame.decodeMaxAckDelay f.encodeMaxAckDelay
          reorderingThreshold := uint64 f.reorderingThreshold } () :=
      (reads_parseVarint hseq).bind ((reads_parseVarint haeth).bind
        ((reads_parseVarint hmad).bind (reads_parseVarint hlt).bind_pure))
    rwa [hdelay, hthreshold] at hread

/-! ### resets -/

theorem written_resetStream {f : ResetStreamFrame} (h : (WireFrame.resetStream f).WellFormed) :
    Written (do return .resetStream (← ResetStreamFrame.parse (decide (f.reliableSize > 0))))
      (.resetStream f) (WireFrame.resetStream f).frameType
      (encode f.streamID ++ (encode f.errorCode ++ (encode f.finalSize ++
        if decide (f.reliableSize > 0) then encode f.reliableSize else []))) := by
  obtain ⟨hid, herr, hfinal, hle⟩ := h
  have hrel : f.reliableSize < 2 ^ 62 := hle.trans_lt hfinal
  have htype : (WireFrame.resetStream f).frameType ≤ 63 := by
    unfold WireFrame.frameType
    dsimp only
    split <;> decide
  refine ⟨fun b => ?_, ?_, fun rest _ => Reads.bind_pure ?_ rest⟩
  · have htype62 : (WireFrame.resetStream f).frameType < 2 ^ 62 := by omega
    have happend := appendVarint_eq htype62 b
    unfold WireFrame.frameType at happend ⊢
    simp [WireFrame.append, ResetStreamFrame.append, happend, hid, herr, hfinal, hrel,
      -Nat.reducePow]
  · rw [encode_small htype]
    by_cases hpos : f.reliableSize > 0 <;>
      simp [WireFrame.length, ResetStreamFrame.length, hpos, hid, herr, hfinal, hrel,
        -Nat.reducePow] <;>
      omega
  · have hread : Reads (ResetStreamFrame.parse (decide (f.reliableSize > 0))) () _ f () :=
      (reads_parseVarint hid).bind ((reads_parseVarint herr).bind ((reads_parseVarint hfinal).bind
        ((reads_parseVarintIf hrel (by simp)).bind (Reads.guard (not_lt.mpr hle) (Reads.pure _ ())))))
    rwa [List.append_nil] at hread

/-! ### connection IDs and paths -/

theorem reads_takeConnectionID (c : ConnectionID) {n : Nat} (hn : n = c.len)
    (h : n ≤ MaxConnIDLen) :
    Reads (NewConnectionIDFrame.takeConnectionID n h) () c.bytes c () := by
  intro rest
  subst hn
  simp [NewConnectionIDFrame.takeConnectionID, ConnectionID.len]

theorem reads_takeToken (t : StatelessResetToken) :
    Reads NewConnectionIDFrame.takeToken () t.bytes t () := by
  intro rest
  simp [NewConnectionIDFrame.takeToken, t.length_eq]

theorem reads_takePathData (d : PathData) : Reads takePathData () d.bytes d () := by
  intro rest
  simp [takePathData, d.length_eq]

theorem Written.of_pathData {α : Type} {parse : Parse FrameError Unit α} {a : α}
    {mk : α → WireFrame} {t : Nat} (d : PathData) (ht : t ≤ 63)
    (happend : ∀ b, (mk a).append b = .ok (b ++ [UInt8.ofNat t] ++ d.bytes))
    (hlength : (mk a).length = .ok (1 + 8)) (hreads : Reads parse () d.bytes a ()) :
    Written (do return mk (← parse)) (mk a) t d.bytes where
  append b := by simp [happend, encode_small ht]
  length := by simp [hlength, encode_small ht, d.length_eq]
  reads rest _ := hreads.bind_pure rest

theorem written_newConnectionID {f : NewConnectionIDFrame}
    (h : (WireFrame.newConnectionID f).WellFormed) :
    Written (do return .newConnectionID (← NewConnectionIDFrame.parse)) (.newConnectionID f)
      FrameTypeNewConnectionID
      (encode f.sequenceNumber ++ (encode f.retirePriorTo ++ ([UInt8.ofNat f.connectionID.len] ++
        (f.connectionID.bytes ++ f.statelessResetToken.bytes)))) := by
  obtain ⟨hseq, hle, hzero⟩ := h
  have hret : f.retirePriorTo < 2 ^ 62 := hle.trans_lt hseq
  have hmax : f.connectionID.len ≤ MaxConnIDLen := f.connectionID.length_le
  have htoken := f.statelessResetToken.length_eq
  have hbyte : (UInt8.ofNat f.connectionID.len).toNat = f.connectionID.len := by
    rw [UInt8.toNat_ofNat']
    exact Nat.mod_eq_of_lt (lt_of_le_of_lt hmax (by decide))
  refine ⟨fun b => ?_, ?_, fun rest _ => Reads.bind_pure ?_ rest⟩
  · simp [WireFrame.append, NewConnectionIDFrame.append, hseq, hret, not_lt.mpr hmax, encode_small,
      FrameTypeNewConnectionID, -Nat.reducePow]
  · simp [WireFrame.length, NewConnectionIDFrame.length, hseq, hret, encode_small,
      FrameTypeNewConnectionID, htoken, ConnectionID.len, -Nat.reducePow]
    omega
  · refine (reads_parseVarint hseq).bind ((reads_parseVarint hret).bind ?_)
    refine Reads.guard (not_lt.mpr hle) ((exact_readByte _ ()).reads.bind ?_)
    refine Reads.guard (by rw [hbyte]; exact hzero) ?_
    rw [dif_neg (by rw [hbyte]; exact not_lt.mpr hmax)]
    exact (reads_takeConnectionID f.connectionID hbyte _).bind
      (reads_takeToken f.statelessResetToken).bind_pure

/-! ### byte strings -/

theorem written_crypto {f : CryptoFrame} (h : (WireFrame.crypto f).WellFormed) :
    Written (do return .crypto (← CryptoFrame.parse)) (.crypto f) FrameTypeCrypto
      (encode f.offset ++ (encode f.data.length ++ f.data)) where
  append b := by
    simp [WireFrame.append, CryptoFrame.append, h.1, h.2, encode_small, FrameTypeCrypto,
      -Nat.reducePow]
  length := by
    simp [WireFrame.length, CryptoFrame.length, h.1, h.2, encode_small, FrameTypeCrypto,
      -Nat.reducePow]
    omega
  reads rest _ :=
    ((reads_parseVarint h.1).bind ((reads_parseVarint h.2).bind
      (reads_takeSlice f.data ()).bind_pure)).bind_pure rest

theorem written_newToken {f : NewTokenFrame} (h : (WireFrame.newToken f).WellFormed) :
    Written (do return .newToken (← NewTokenFrame.parse)) (.newToken f) FrameTypeNewToken
      (encode f.token.length ++ f.token) where
  append b := by
    simp [WireFrame.append, NewTokenFrame.append, appendVarint_eq h.1, encode_small,
      FrameTypeNewToken]
  length := by
    simp [WireFrame.length, NewTokenFrame.length, varintLen_eq h.1, encode_small, FrameTypeNewToken]
    omega
  reads rest _ :=
    ((reads_parseVarint h.1).bind
      (Reads.guard h.2 (reads_takeSlice f.token ()).bind_pure)).bind_pure rest

theorem written_connectionClose {f : ConnectionCloseFrame}
    (h : (WireFrame.connectionClose f).WellFormed) :
    Written
      (do return .connectionClose
            (← ConnectionCloseFrame.parse (WireFrame.connectionClose f).frameType))
      (.connectionClose f) (WireFrame.connectionClose f).frameType
      (encode f.errorCode ++ ((if !f.isApplicationError then encode f.frameType else []) ++
        (encode f.reasonPhrase.length ++ f.reasonPhrase))) := by
  obtain ⟨isApplicationError, errorCode, frameType, reason⟩ := f
  obtain ⟨herr, hft, hzero, hreason⟩ := h
  refine ⟨fun b => ?_, ?_, fun rest _ => Reads.bind_pure ?_ rest⟩
  · cases isApplicationError <;>
      simp [WireFrame.append, ConnectionCloseFrame.append, WireFrame.frameType, herr, hft, hreason,
        encode_small, FrameTypeConnectionClose, FrameTypeApplicationClose, -Nat.reducePow]
  · cases isApplicationError <;>
      simp [WireFrame.length, ConnectionCloseFrame.length, WireFrame.frameType, herr, hft, hreason,
        encode_small, FrameTypeConnectionClose, FrameTypeApplicationClose, -Nat.reducePow] <;>
      omega
  · have hflag : decide ((if isApplicationError then FrameTypeApplicationClose
        else FrameTypeConnectionClose) = FrameTypeApplicationClose) = isApplicationError := by
      cases isApplicationError <;> rfl
    unfold WireFrame.frameType ConnectionCloseFrame.parse
    dsimp only
    rw [hflag]
    exact (reads_parseVarint herr).bind ((reads_parseVarintIf hft (by simpa using hzero)).bind
      ((reads_parseVarint hreason).bind (reads_takeSlice reason ()).bind_pure))

/-- Data that is read with the length in front, or up to the end of the packet. -/
theorem parseData_eq {c : Bool} {data rest : Bytes} (h : c = true → data.length < 2 ^ 62)
    (hrest : c = true ∨ rest = []) :
    parseData c () ((if c then encode data.length else []) ++ data ++ rest) =
      (.ok data, (), rest) := by
  cases c with
  | true => exact (reads_parseVarint (h rfl)).bind (reads_takeSlice data ()) rest
  | false =>
    obtain hc | rfl := hrest
    · cases hc
    · simp [parseData, takeRest]

theorem datagramFrameType_flag : ∀ c : Bool,
    (0x30 ^^^ if c then 0b1 else 0).testBit 0 = c ∧ (0x30 ^^^ if c then 0b1 else 0) ≤ 63 := by
  decide

theorem written_datagram {f : DatagramFrame} (h : (WireFrame.datagram f).WellFormed) :
    Written (do return .datagram (← DatagramFrame.parse (WireFrame.datagram f).frameType))
      (.datagram f) (WireFrame.datagram f).frameType
      ((if f.dataLenPresent then encode f.data.length else []) ++ f.data) := by
  obtain ⟨hflag, hsmall⟩ := datagramFrameType_flag f.dataLenPresent
  obtain ⟨c, data⟩ := f
  refine ⟨fun b => ?_, ?_, fun rest hrest => bind_ok ?_⟩
  · cases c with
    | true =>
      simp [WireFrame.append, DatagramFrame.append, WireFrame.frameType, appendVarintIf,
        appendVarint_eq (h rfl), encode_small]
    | false =>
      simp [WireFrame.append, DatagramFrame.append, WireFrame.frameType, appendVarintIf,
        encode_small]
  · cases c with
    | true =>
      simp [WireFrame.length, DatagramFrame.length, WireFrame.frameType, varintLen_eq (h rfl),
        encode_small]
      omega
    | false =>
      simp [WireFrame.length, DatagramFrame.length, WireFrame.frameType, encode_small]
      omega
  · unfold DatagramFrame.parse WireFrame.frameType
    dsimp only
    rw [hflag]
    exact bind_ok (parseData_eq h hrest)

/-! ### STREAM frames -/

theorem streamFrameType_flags : ∀ fin hasDataLen hasOffset : Bool,
    (streamFrameType fin hasDataLen hasOffset).testBit 0 = fin ∧
      (streamFrameType fin hasDataLen hasOffset).testBit 1 = hasDataLen ∧
      (streamFrameType fin hasDataLen hasOffset).testBit 2 = hasOffset ∧
      streamFrameType fin hasDataLen hasOffset ≤ 63 := by
  decide

theorem written_stream {f : StreamFrame} (h : (WireFrame.stream f).WellFormed)
    (hdata : f.data ≠ [] ∨ f.fin = true) :
    Written (do return .stream (← StreamFrame.parse (WireFrame.stream f).frameType))
      (.stream f) (WireFrame.stream f).frameType
      (encode f.streamID ++ ((if decide (f.offset ≠ 0) then encode f.offset else []) ++
        ((if f.dataLenPresent then encode f.data.length else []) ++ f.data))) := by
  obtain ⟨hid, hsize, hmax⟩ := h
  have hmax' : f.offset + f.data.length < 2 ^ 62 := lt_of_le_of_lt hmax (by decide)
  have hoffset : f.offset < 2 ^ 62 := by omega
  have hlen : f.data.length < 2 ^ 62 := by omega
  obtain ⟨hfin, hdataLen, hhasOffset, hsmall⟩ :=
    streamFrameType_flags f.fin f.dataLenPresent (decide (f.offset ≠ 0))
  refine ⟨fun b => ?_, ?_, fun rest hrest => bind_ok ?_⟩
  · have hne : ¬ (f.data.length = 0 ∧ f.fin = false) := by
      rintro ⟨hnil, hnofin⟩
      obtain hdata | hdata := hdata
      · exact hdata (List.length_eq_zero_iff.mp hnil)
      · rw [hnofin] at hdata
        cases hdata
    simp only [WireFrame.append, StreamFrame.append, WireFrame.frameType, if_neg hne,
      appendVarint_eq hid, appendVarintIf_eq hoffset, StreamFrame.dataLen, appendVarintIf_eq hlen,
      encode_small hsmall, Outcome.ok_bind, List.append_assoc]
    rfl
  · simp only [WireFrame.length, StreamFrame.length, StreamFrame.prefixLen, WireFrame.frameType,
      varintLen_eq hid, varintLen_eq hoffset, StreamFrame.dataLen, varintLen_eq hlen,
      encode_small hsmall, Outcome.ok_bind, List.length_append]
    by_cases hzero : f.offset = 0
    · cases hpresent : f.dataLenPresent <;> simp [hzero, pure, Except.pure] <;> omega
    · cases hpresent : f.dataLenPresent <;> simp [hzero, pure, Except.pure] <;> omega
  · unfold StreamFrame.parse WireFrame.frameType
    dsimp only
    rw [hfin, hdataLen, hhasOffset, List.append_assoc,
      bind_ok (reads_parseVarint hid _), List.append_assoc,
      bind_ok (reads_parseVarintIf hoffset (by simp) _), bind_ok (parseData_eq (fun _ => hlen) hrest),
      if_neg (fun hbig => absurd hbig.2 (not_lt.mpr hsize)), if_neg (not_lt.mpr hmax)]
    rfl

/-! ### ACK frames -/

namespace Frames.AckFrame

/-- The bytes of a gap and a range. -/
def encodeRange (r : Nat × Nat) : Bytes := encode r.1 ++ encode r.2

theorem foldlM_appendRange {rs : List (Nat × Nat)} (h : ∀ r ∈ rs, r.1 < 2 ^ 62 ∧ r.2 < 2 ^ 62)
    (b : Bytes) : rs.foldlM appendRange b = .ok (b ++ rs.flatMap encodeRange) := by
  induction rs generalizing b with
  | nil => simp [pure, Except.pure]
  | cons r rs ih =>
    obtain ⟨hgap, hlen⟩ := h r List.mem_cons_self
    have happend : appendRange b r = .ok (b ++ encodeRange r) := by
      simp [appendRange, encodeRange, hgap, hlen, -Nat.reducePow]
    rw [List.foldlM_cons, happend, Outcome.ok_bind,
      ih fun r' hr' => h r' (List.mem_cons_of_mem _ hr'), List.flatMap_cons, List.append_assoc]

theorem foldlM_rangeLen {rs : List (Nat × Nat)} (h : ∀ r ∈ rs, r.1 < 2 ^ 62 ∧ r.2 < 2 ^ 62)
    (n : Nat) :
    rs.foldlM (fun length r => return length + (← rangeLen r)) n =
      .ok (n + (rs.flatMap encodeRange).length) := by
  induction rs generalizing n with
  | nil => simp [pure, Except.pure]
  | cons r rs ih =>
    obtain ⟨hgap, hlen⟩ := h r List.mem_cons_self
    have hrange : rangeLen r = .ok (encodeRange r).length := by
      simp [rangeLen, encodeRange, hgap, hlen, pure, Except.pure, -Nat.reducePow]
    rw [List.foldlM_cons, hrange, Outcome.ok_bind]
    refine (ih (fun r' hr' => h r' (List.mem_cons_of_mem _ hr')) _).trans ?_
    rw [List.flatMap_cons, List.length_append, Nat.add_assoc]

/-- Ranges that a received frame can have. -/
structure Ranges (rs : List AckRange) : Prop where
  bounds : ∀ r ∈ rs, 0 ≤ r.smallest ∧ r.smallest ≤ r.largest ∧ r.largest < 2 ^ 62
  descending : rs.Pairwise fun r r' => r'.largest + 1 < r.smallest

theorem WellFormed.ranges {f : AckFrame} (h : f.WellFormed) : Ranges f.ackRanges where
  bounds r hr :=
    ⟨(h.bounds r hr).1, (f.validateAckRanges_iff.mp h.validated).2.1 r hr, (h.bounds r hr).2⟩
  descending := (f.validateAckRanges_iff.mp h.validated).2.2

theorem Ranges.tail {r : AckRange} {rs : List AckRange} (h : Ranges (r :: rs)) : Ranges rs where
  bounds r' hr' := h.bounds r' (List.mem_cons_of_mem _ hr')
  descending := (List.pairwise_cons.mp h.descending).2

/-- The gap and the length of the second range. -/
theorem Ranges.encoded {r r' : AckRange} {rs : List AckRange} (h : Ranges (r :: r' :: rs)) :
    (((uint64 (r.smallest - r'.largest - 2) : Nat) : Int) = r.smallest - r'.largest - 2 ∧
      uint64 (r.smallest - r'.largest - 2) < 2 ^ 62) ∧
    ((uint64 (r'.largest - r'.smallest) : Nat) : Int) = r'.largest - r'.smallest ∧
      uint64 (r'.largest - r'.smallest) < 2 ^ 62 := by
  have hr := h.bounds r List.mem_cons_self
  have hr' := h.bounds r' (by simp)
  have hgap := (List.pairwise_cons.mp h.descending).1 r' List.mem_cons_self
  constructor
  · exact uint64_eq (by lia) (by lia)
  · exact uint64_eq (by lia) (by lia)

theorem Ranges.encodeAckRanges_lt {rs : List AckRange} (h : Ranges rs) :
    ∀ x ∈ encodeAckRanges rs, x.1 < 2 ^ 62 ∧ x.2 < 2 ^ 62 := by
  induction rs with
  | nil => simp [encodeAckRanges]
  | cons r rs ih =>
    cases rs with
    | nil => simp [encodeAckRanges]
    | cons r' rs =>
      intro x hx
      obtain rfl | hx := List.mem_cons.mp hx
      · exact ⟨h.encoded.1.2, h.encoded.2.2⟩
      · exact ih h.tail x hx

/-- The ranges after the first one are read back. -/
theorem Ranges.reads_parseRanges {r : AckRange} {rs : List AckRange} (h : Ranges (r :: rs)) :
    Reads (parseRanges r.smallest rs.length) ()
      ((encodeAckRanges (r :: rs)).flatMap encodeRange) rs () := by
  induction rs generalizing r with
  | nil => exact Reads.pure [] ()
  | cons r' rs ih =>
    obtain ⟨⟨hgap, hgap62⟩, hlen, hlen62⟩ := h.encoded
    have hr' := h.bounds r' (by simp)
    have hlargest : r.smallest - (r.smallest - r'.largest - 2) - 2 = r'.largest := by lia
    have hsmallest : r'.largest - (r'.largest - r'.smallest) = r'.smallest := by lia
    rw [encodeAckRanges, List.flatMap_cons, encodeRange, List.append_assoc, List.length_cons,
      parseRanges]
    refine (reads_parseVarint hgap62).bind (Reads.guard (by lia) ?_)
    rw [hgap, hlargest]
    refine (reads_parseVarint hlen62).bind (Reads.guard (by lia) ?_)
    rw [hlen, hsmallest]
    exact (ih h.tail).bind_pure

theorem encodedRanges_eq {f : AckFrame} (hnum : f.ackRanges.length ≤ MaxNumAckRanges) :
    f.encodedRanges = encodeAckRanges f.ackRanges := by
  unfold encodedRanges
  rw [min_eq_left hnum, List.take_length]

/-- A delay of whole units is read back. -/
theorem decodeAckDelay_encode {delay : Duration} (hnonneg : 0 ≤ delay) (hmax : delay ≤ MaxInt64)
    (hdvd : 8000 ∣ delay) :
    decodeAckDelay (encodeAckDelay delay) AckDelayExponent = delay ∧
      encodeAckDelay delay < 2 ^ 62 := by
  obtain ⟨d, hd⟩ := hdvd
  obtain ⟨heq, hlt⟩ := uint64_units (by decide) hnonneg hmax hd (by decide)
  have hmax' : d * 8000 ≤ 9223372036854775807 := by
    rw [Int.mul_comm, ← hd]
    exact hmax
  have hshift : uint64 (encodeAckDelay delay <<< AckDelayExponent : Nat) = d * 8 := by
    have hcast : ((encodeAckDelay delay <<< AckDelayExponent : Nat) : Int) = d * 8 := by
      rw [Nat.shiftLeft_eq, Nat.cast_mul, encodeAckDelay]
      exact congrArg (· * 8) heq
    rw [hcast]
    exact (uint64_eq (by lia) (by lia)).1
  have hscale : int64 (int64 (uint64 (encodeAckDelay delay <<< AckDelayExponent : Nat)) * 1000) =
      delay := by
    have hd64 : int64 (d * 8) = d * 8 := int64_eq (by lia) (by unfold MaxInt64; lia)
    have hunits : d * 8 * 1000 = delay := by lia
    rw [hshift, hd64, hunits, int64_eq hnonneg hmax]
  unfold decodeAckDelay
  rw [hscale, if_neg (not_lt.mpr hnonneg)]
  exact ⟨rfl, hlt⟩

section

variable {first : AckRange} {rs : List AckRange} {delay : Duration} {ect0 ect1 ecnce : Nat}

/-- The fields before the ECN counts. -/
def encodeRanges (first : AckRange) (rs : List AckRange) (delay : Duration) : Bytes :=
  encode (uint64 first.largest) ++ (encode (encodeAckDelay delay) ++ (encode rs.length ++
    (encode (uint64 (first.largest - first.smallest)) ++
      (encodeAckRanges (first :: rs)).flatMap encodeRange)))

/-- The ECN counts. -/
def encodeECN (f : AckFrame) : Bytes :=
  if f.hasECN then encode f.ect0 ++ (encode f.ect1 ++ encode f.ecnce) else []

variable (h : WellFormed ⟨first :: rs, delay, ect0, ect1, ecnce⟩)
  (hnum : (first :: rs).length ≤ MaxNumAckRanges) (hdvd : 8000 ∣ delay)

include h hnum hdvd

/-- The fields before the ECN counts are read back; what follows is the rest of the method. -/
theorem reads_parse {typ : Nat} {bs : Bytes} {f : AckFrame}
    (hecn : Reads
      (if typ = FrameTypeAckECN then do
        let ect0 ← parseVarint
        let ect1 ← parseVarint
        let ecnce ← parseVarint
        return { ackRanges := first :: rs, delayTime := delay, ect0, ect1, ecnce }
      else return { ackRanges := first :: rs, delayTime := delay }) () bs f ()) :
    Reads (parse typ AckDelayExponent) () (encodeRanges first rs delay ++ bs) f () := by
  have hranges := h.ranges
  have hfirst := hranges.bounds first List.mem_cons_self
  obtain ⟨hdelay, hdelay62⟩ := decodeAckDelay_encode h.delay.1 h.delay.2 hdvd
  obtain ⟨hlargest, hlargest62⟩ := uint64_eq (z := first.largest) (by lia) (by lia)
  obtain ⟨hblock, hblock62⟩ := uint64_eq (z := first.largest - first.smallest) (by lia) (by lia)
  have hsmallest : first.largest - (first.largest - first.smallest) = first.smallest := by lia
  have hnum62 : rs.length < 2 ^ 62 := by
    unfold MaxNumAckRanges at hnum
    rw [List.length_cons] at hnum
    omega
  unfold encodeRanges
  simp only [List.append_assoc]
  refine (reads_parseVarint hlargest62).bind ((reads_parseVarint hdelay62).bind ?_)
  refine (reads_parseVarint hnum62).bind ((reads_parseVarint hblock62).bind ?_)
  refine Reads.guard (by lia) ?_
  rw [hlargest, hblock, hsmallest, hdelay]
  refine hranges.reads_parseRanges.bind (Reads.guard ?_ hecn)
  rw [Bool.not_eq_false]
  exact h.validated

/-- The fields before the ECN counts fit. -/
theorem fields_lt : uint64 first.largest < 2 ^ 62 ∧ encodeAckDelay delay < 2 ^ 62 ∧
    rs.length ≤ 63 ∧ uint64 (first.largest - first.smallest) < 2 ^ 62 := by
  have hfirst := h.ranges.bounds first List.mem_cons_self
  refine ⟨(uint64_eq (by lia) (by lia)).2, (decodeAckDelay_encode h.delay.1 h.delay.2 hdvd).2, ?_,
    (uint64_eq (by lia) (by lia)).2⟩
  unfold MaxNumAckRanges at hnum
  rw [List.length_cons] at hnum
  omega

theorem append_eq (b : Bytes) :
    append ⟨first :: rs, delay, ect0, ect1, ecnce⟩ b =
      .ok (b ++ (encode (WireFrame.ack ⟨first :: rs, delay, ect0, ect1, ecnce⟩).frameType ++
        (encodeRanges first rs delay ++ encodeECN ⟨first :: rs, delay, ect0, ect1, ecnce⟩))) := by
  obtain ⟨hlargest, hdelay, hlen, hblock⟩ := fields_lt h hnum hdvd
  have hlen62 : rs.length < 2 ^ 62 := by omega
  have hcount : min (first :: rs).length MaxNumAckRanges - 1 = rs.length := by
    rw [min_eq_left hnum]
    rfl
  have hranges := foldlM_appendRange h.ranges.encodeAckRanges_lt
  have hranges' := encodedRanges_eq (f := ⟨first :: rs, delay, ect0, ect1, ecnce⟩) hnum
  unfold append encodeRanges encodeECN WireFrame.frameType
  simp only [hcount, appendVarint_eq, hlargest, hdelay, hlen62, hblock, hranges, hranges',
    Outcome.ok_bind]
  cases hecn : hasECN ⟨first :: rs, delay, ect0, ect1, ecnce⟩ with
  | true =>
    simp [h.ect0, h.ect1, h.ecnce, encode_small, FrameTypeAckECN, -Nat.reducePow]
  | false => simp [encode_small, FrameTypeAck, pure, Except.pure]

theorem length_eq :
    length ⟨first :: rs, delay, ect0, ect1, ecnce⟩ =
      .ok (encode (WireFrame.ack ⟨first :: rs, delay, ect0, ect1, ecnce⟩).frameType ++
        (encodeRanges first rs delay ++
          encodeECN ⟨first :: rs, delay, ect0, ect1, ecnce⟩)).length := by
  obtain ⟨hlargest, hdelay, hlen, hblock⟩ := fields_lt h hnum hdvd
  have hranges := foldlM_rangeLen h.ranges.encodeAckRanges_lt
  have hranges' := encodedRanges_eq (f := ⟨first :: rs, delay, ect0, ect1, ecnce⟩) hnum
  unfold length ecnLen encodeRanges encodeECN WireFrame.frameType
  simp only [varintLen_eq, hlargest, hdelay, hblock, hranges, hranges', Outcome.ok_bind]
  cases hecn : hasECN ⟨first :: rs, delay, ect0, ect1, ecnce⟩ with
  | true =>
    simp [h.ect0, h.ect1, h.ecnce, encode_small hlen, encode_small, FrameTypeAckECN, pure,
      Except.pure, -Nat.reducePow]
    omega
  | false =>
    simp [encode_small hlen, encode_small, FrameTypeAck, pure, Except.pure]
    omega

end

theorem written_ack {f : AckFrame} (h : f.WellFormed) (hnum : f.ackRanges.length ≤ MaxNumAckRanges)
    (hdvd : 8000 ∣ f.delayTime) :
    ∃ body, Written
      (do return .ack (← parse (WireFrame.ack f).frameType AckDelayExponent)) (.ack f)
      (WireFrame.ack f).frameType body := by
  obtain ⟨ranges, delay, ect0, ect1, ecnce⟩ := f
  cases ranges with
  | nil => exact absurd h.validated (by simp [validateAckRanges])
  | cons first rs =>
    refine ⟨_, append_eq h hnum hdvd, length_eq h hnum hdvd, fun rest _ =>
      Reads.bind_pure (reads_parse h hnum hdvd ?_) rest⟩
    unfold encodeECN WireFrame.frameType
    cases hecn : hasECN ⟨first :: rs, delay, ect0, ect1, ecnce⟩ with
    | true =>
      simp only [hecn, ↓reduceIte]
      exact (reads_parseVarint h.ect0).bind ((reads_parseVarint h.ect1).bind
        (reads_parseVarint h.ecnce).bind_pure)
    | false =>
      have hzero : ect0 = 0 ∧ ect1 = 0 ∧ ecnce = 0 := by simpa [hasECN, and_assoc] using hecn
      obtain ⟨rfl, rfl, rfl⟩ := hzero
      simp only [hecn, Bool.false_eq_true, ↓reduceIte]
      exact Reads.pure _ ()

end Frames.AckFrame

/-! ## the parser -/

/-- What the round trip of a frame needs beyond its acceptance. An ACK delay is a whole number of
units, and a maximum ACK delay a whole number of microseconds, unless it overflowed. -/
def WireFrame.Keeps (p : FrameParser) (encLevel : EncryptionLevel) : WireFrame → Prop
  | .ack f => f.ackRanges.length ≤ MaxNumAckRanges ∧ p.exponentAt encLevel = AckDelayExponent ∧
      8000 ∣ f.delayTime
  | .ackFrequency f => 1000 ∣ f.requestMaxAckDelay
  | .stream f => f.data ≠ [] ∨ f.fin = true
  | _ => True

/-- No frame is written as PADDING. -/
theorem WireFrame.frameType_bounds (f : WireFrame) : f.frameType ≠ 0 ∧ f.frameType < 2 ^ 62 := by
  have hstream : ∀ fin hasDataLen hasOffset : Bool,
      streamFrameType fin hasDataLen hasOffset ≠ 0 ∧
        streamFrameType fin hasDataLen hasOffset < 2 ^ 62 := by
    decide
  have hdatagram : ∀ c : Bool,
      (0x30 ^^^ if c then 0b1 else 0) ≠ 0 ∧ (0x30 ^^^ if c then 0b1 else 0) < 2 ^ 62 := by
    decide
  cases f with
  | stream f => exact hstream _ _ _
  | datagram f => exact hdatagram _
  | ack | resetStream | connectionClose | maxStreams | streamsBlocked =>
    unfold frameType
    dsimp only
    split <;> decide
  | _ =>
    simp only [frameType]
    decide

namespace FrameParser

theorem isDatagramFrameType_flag : ∀ c : Bool,
    isStreamFrameType (0x30 ^^^ if c then 0b1 else 0) = false ∧
      isAckFrameType (0x30 ^^^ if c then 0b1 else 0) = false ∧
      isDatagramFrameType (0x30 ^^^ if c then 0b1 else 0) = true := by
  decide

variable {p : FrameParser} {encLevel : EncryptionLevel} {f : WireFrame}

theorem exists_written (h : f.WellFormed) (hkeeps : f.Keeps p encLevel) :
    ∃ body, Written (p.parseFrame encLevel f.frameType) f f.frameType body := by
  cases f with
  | ping | handshakeDone | immediateAck => exact ⟨[], fun _ => rfl, rfl, fun _ _ => rfl⟩
  | ack f =>
    obtain ⟨hnum, hexp, hdvd⟩ := hkeeps
    obtain ⟨body, hbody⟩ := Frames.AckFrame.written_ack h hnum hdvd
    have htype : isStreamFrameType (WireFrame.ack f).frameType = false ∧
        isAckFrameType (WireFrame.ack f).frameType = true := by
      unfold WireFrame.frameType
      dsimp only
      split <;> decide
    unfold parseFrame
    rw [hexp, htype.1, htype.2]
    exact ⟨body, hbody⟩
  | resetStream f =>
    have hframe : p.parseFrame encLevel (WireFrame.resetStream f).frameType =
        do return .resetStream (← ResetStreamFrame.parse (decide (f.reliableSize > 0))) := by
      cases hsize : f.reliableSize <;> simp only [WireFrame.frameType, hsize] <;> rfl
    rw [hframe]
    exact ⟨_, written_resetStream h⟩
  | stopSending | maxStreamData | streamDataBlocked =>
    exact ⟨_, .of_varints (Nat.le_of_ble_eq_true rfl) h.1 h.2 (fun _ => rfl) rfl
      ((reads_parseVarint h.1).bind (reads_parseVarint h.2).bind_pure)⟩
  | crypto f => exact ⟨_, written_crypto h⟩
  | newToken f => exact ⟨_, written_newToken h⟩
  | stream f =>
    have htype : isStreamFrameType (WireFrame.stream f).frameType = true :=
      isStreamFrameType_streamFrameType _ _ _
    unfold parseFrame
    rw [if_pos htype]
    exact ⟨_, written_stream h hkeeps⟩
  | maxData | dataBlocked | retireConnectionID =>
    exact ⟨_, .of_varint (Nat.le_of_ble_eq_true rfl) h (fun _ => rfl) rfl
      (reads_parseVarint h).bind_pure⟩
  | maxStreams f | streamsBlocked f =>
    obtain ⟨-, hlt⟩ := uint64_eq h.1 (lt_of_le_of_lt h.2 (by decide))
    have hread := reads_parseStreamCount h.1 h.2
    obtain ⟨type, n⟩ := f
    cases type with
    | bidi | uni =>
      exact ⟨_, .of_varint (Nat.le_of_ble_eq_true rfl) hlt (fun _ => rfl) rfl hread.bind_pure⟩
  | newConnectionID f => exact ⟨_, written_newConnectionID h⟩
  | pathChallenge f | pathResponse f =>
    exact ⟨_, .of_pathData f.data (Nat.le_of_ble_eq_true rfl) (fun _ => rfl) rfl
      (reads_takePathData f.data).bind_pure⟩
  | connectionClose f =>
    obtain ⟨isApplicationError, errorCode, frameType, reason⟩ := f
    cases isApplicationError with
    | false | true => exact ⟨_, written_connectionClose h⟩
  | datagram f =>
    obtain ⟨hstream, hack, hdatagram⟩ := isDatagramFrameType_flag f.dataLenPresent
    have hframe : p.parseFrame encLevel (WireFrame.datagram f).frameType =
        do return .datagram (← DatagramFrame.parse (WireFrame.datagram f).frameType) := by
      unfold parseFrame WireFrame.frameType
      dsimp only
      rw [hstream, hack, hdatagram]
      rfl
    rw [hframe]
    exact ⟨_, written_datagram h⟩
  | ackFrequency f => exact ⟨_, written_ackFrequency h hkeeps⟩

theorem parseTypeLoop_succ {n : Nat} {b : Bytes} (hb : b.length ≠ 0) :
    p.parseTypeLoop encLevel (n + 1) () b =
      (do
        let typ ← mapError (.transport 0) Quicvarint.parse
        if typ = 0x0 then p.parseTypeLoop encLevel n
        else p.checkType encLevel typ : Parse ParserError Unit Nat) () b :=
  if_neg hb

theorem reads_parseType {frameType : Nat} (h : p.Takes encLevel frameType) (hzero : frameType ≠ 0)
    (hlt : frameType < 2 ^ 62) :
    Reads (p.parseType encLevel) () (encode frameType) frameType () := by
  intro rest
  have hpos := List.length_pos_iff.mpr (Quicvarint.encode_ne_nil hlt)
  obtain ⟨n, hn⟩ : ∃ n, (encode frameType ++ rest).length = n + 1 :=
    ⟨(encode frameType ++ rest).length - 1, by rw [List.length_append]; omega⟩
  unfold parseType
  rw [hn, parseTypeLoop_succ (by omega), bind_ok ((Quicvarint.reads_parse hlt).mapError rest),
    if_neg hzero, checkType, h.1, h.2]
  rfl

/-- **Round trip**: a frame that the parser has accepted is written with the announced length, and
the parser reads it back and consumes exactly its bytes, whatever follows it or, if it extends to
the end of the packet, if nothing does. -/
theorem parse_append {b : Bytes} {n : Nat} (hparse : p.parse encLevel b = .ok (f, n))
    (hkeeps : f.Keeps p encLevel) (rest : Bytes) (hrest : f.Delimited ∨ rest = []) :
    ∃ bs, (∀ b₀, f.append b₀ = .ok (b₀ ++ bs)) ∧ f.length = .ok bs.length ∧
      p.parse encLevel (bs ++ rest) = .ok (f, bs.length) := by
  obtain ⟨hwf, htakes⟩ := accepts_of_parse hparse
  obtain ⟨body, hwritten⟩ := exists_written hwf hkeeps
  obtain ⟨hzero, hlt⟩ := f.frameType_bounds
  refine ⟨_, hwritten.append, hwritten.length, ?_⟩
  have hnext : p.parseNext encLevel () (encode f.frameType ++ body ++ rest) = (.ok f, (), rest) := by
    rw [List.append_assoc]
    refine (bind_ok (reads_parseType htakes hzero hlt _)).trans ?_
    simp only [mapError, hwritten.reads rest hrest]
  unfold parse
  rw [hnext]
  simp only [List.length_append, Nat.add_sub_cancel]

/-- An ACK frame with two ranges and ECN counts, followed by PING. -/
theorem parse_append_ackECN :
    let p : FrameParser := ⟨3, true, true, true⟩
    let f : WireFrame := .ack ⟨[⟨7, 9⟩, ⟨1, 3⟩], 80000, 1, 0, 2⟩
    p.parse .oneRTT [0x00, 0x03, 9, 10, 1, 2, 2, 2, 1, 0, 2, 0x01] = .ok (f, 11) ∧
      ∃ bs, (∀ b₀, f.append b₀ = .ok (b₀ ++ bs)) ∧ f.length = .ok bs.length ∧
        p.parse .oneRTT (bs ++ [0x01]) = .ok (f, bs.length) :=
  have hparse : (⟨3, true, true, true⟩ : FrameParser).parse .oneRTT
      [0x00, 0x03, 9, 10, 1, 2, 2, 2, 1, 0, 2, 0x01] =
        .ok (.ack ⟨[⟨7, 9⟩, ⟨1, 3⟩], 80000, 1, 0, 2⟩, 11) := by decide +kernel
  ⟨hparse, parse_append hparse ⟨by decide, rfl, by decide⟩ [0x01] (.inl trivial)⟩

/-- A STREAM frame with neither data nor FIN is accepted, and is then refused by `append`. -/
theorem emptyStreamFrame_not_written :
    let p : FrameParser := ⟨3, true, true, true⟩
    let f : WireFrame := .stream { streamID := 4, offset := 0 }
    p.parse .oneRTT [0x0a, 4, 0] = .ok (f, 3) ∧ f.Delimited ∧
      ∀ b, f.append b = .error .emptyFrameWithoutFin :=
  ⟨by decide, rfl, fun _ => rfl⟩

end FrameParser

end Quic

end MoqQuic
