import MoqQuic.Quic.Frames.Parser

/-!
# MoqQuic.Quic.Frames.WellFormed

What the frame parser accepts.

`WireFrame.WellFormed` lists, for each kind of frame, what its parse function has checked of a
frame that it returns: the fields that were varints fit 62 bits, and the limits of the source
hold. `frameType` is the type under which `append` writes the frame; it need not be the type
under which it was received, but it is valid and allowed wherever the received one was.
-/

namespace MoqQuic

open Parse

namespace Quic

/-! ## fields -/

theorem yields_parseVarint : Yields (· < 2 ^ 62) parseVarint :=
  Quicvarint.yields_parse.mapError

theorem yields_true {ε α : Type} (p : Parse ε Unit α) : Yields (fun _ => True) p :=
  fun _ _ _ _ _ _ => trivial

theorem yields_parseStreamCount :
    Yields (fun n => 0 ≤ n ∧ n ≤ MaxStreamCount) parseStreamCount := by
  refine yields_parseVarint.bind fun n hn => Yields.guard fun hle => Yields.pure ?_
  exact ⟨Int.natCast_nonneg n, not_lt.mp hle⟩

theorem yields_parseVarintIf (c : Bool) :
    Yields (fun v => v < 2 ^ 62 ∧ (c = false → v = 0)) (parseVarintIf c) := by
  cases c with
  | true => exact yields_parseVarint.mono fun v hv => ⟨hv, fun h => by cases h⟩
  | false => exact Yields.pure ⟨by decide, fun _ => rfl⟩

theorem yields_parseData (c : Bool) :
    Yields (fun data => c = true → data.length < 2 ^ 62) (parseData c) := by
  cases c with
  | true =>
    refine yields_parseVarint.bind fun n hn => (yields_takeSlice n).mono fun data hdata _ => ?_
    exact hdata.trans_lt hn
  | false => exact fun _ _ _ _ _ _ h => by cases h

/-- A duration that is set to the maximum if it overflows. -/
theorem int64_clamp (i : Int) : 0 ≤ (if int64 i < 0 then MaxInt64 else int64 i) ∧
    (if int64 i < 0 then MaxInt64 else int64 i) ≤ MaxInt64 := by
  by_cases h : int64 i < 0
  · rw [if_pos h]
    decide
  · have hlt := Int.bmod_lt (x := i) (m := 18446744073709551616) (by decide)
    rw [if_neg h]
    unfold int64 MaxInt64 at *
    omega

/-! ## what the parse functions have checked -/

structure Frames.AckFrame.WellFormed (f : AckFrame) : Prop where
  validated : f.validateAckRanges = true
  bounds : ∀ r ∈ f.ackRanges, 0 ≤ r.smallest ∧ r.largest < 2 ^ 62
  delay : 0 ≤ f.delayTime ∧ f.delayTime ≤ MaxInt64
  ect0 : f.ect0 < 2 ^ 62
  ect1 : f.ect1 < 2 ^ 62
  ecnce : f.ecnce < 2 ^ 62

/-- The frames that the parse functions return. -/
def WireFrame.WellFormed : WireFrame → Prop
  | .ping | .handshakeDone | .immediateAck | .pathChallenge _ | .pathResponse _ => True
  | .ack f => f.WellFormed
  | .resetStream f => f.streamID < 2 ^ 62 ∧ f.errorCode < 2 ^ 62 ∧ f.finalSize < 2 ^ 62 ∧
      f.reliableSize ≤ f.finalSize
  | .stopSending f => f.streamID < 2 ^ 62 ∧ f.errorCode < 2 ^ 62
  | .crypto f => f.offset < 2 ^ 62 ∧ f.data.length < 2 ^ 62
  | .newToken f => f.token.length < 2 ^ 62 ∧ f.token.length ≠ 0
  | .stream f => f.streamID < 2 ^ 62 ∧ f.data.length ≤ MaxPacketBufferSize ∧
      f.offset + f.data.length ≤ MaxByteCount
  | .maxData f => f.maximumData < 2 ^ 62
  | .maxStreamData f => f.streamID < 2 ^ 62 ∧ f.maximumStreamData < 2 ^ 62
  | .maxStreams f => 0 ≤ f.maxStreamNum ∧ f.maxStreamNum ≤ MaxStreamCount
  | .dataBlocked f => f.maximumData < 2 ^ 62
  | .streamDataBlocked f => f.streamID < 2 ^ 62 ∧ f.maximumStreamData < 2 ^ 62
  | .streamsBlocked f => 0 ≤ f.streamLimit ∧ f.streamLimit ≤ MaxStreamCount
  | .newConnectionID f => f.sequenceNumber < 2 ^ 62 ∧ f.retirePriorTo ≤ f.sequenceNumber ∧
      f.connectionID.len ≠ 0
  | .retireConnectionID f => f.sequenceNumber < 2 ^ 62
  | .connectionClose f => f.errorCode < 2 ^ 62 ∧ f.frameType < 2 ^ 62 ∧
      (f.isApplicationError = true → f.frameType = 0) ∧ f.reasonPhrase.length < 2 ^ 62
  | .datagram f => f.dataLenPresent = true → f.data.length < 2 ^ 62
  | .ackFrequency f => f.sequenceNumber < 2 ^ 62 ∧ f.ackElicitingThreshold < 2 ^ 62 ∧
      (0 ≤ f.requestMaxAckDelay ∧ f.requestMaxAckDelay ≤ MaxInt64) ∧
      0 ≤ f.reorderingThreshold ∧ f.reorderingThreshold < 2 ^ 62

/-- The frame type that `append` writes. -/
def WireFrame.frameType : WireFrame → Nat
  | .ping => FrameTypePing
  | .ack f => if f.hasECN then FrameTypeAckECN else FrameTypeAck
  | .resetStream f => if f.reliableSize = 0 then FrameTypeResetStream else FrameTypeResetStreamAt
  | .stopSending _ => FrameTypeStopSending
  | .crypto _ => FrameTypeCrypto
  | .newToken _ => FrameTypeNewToken
  | .stream f => streamFrameType f.fin f.dataLenPresent (f.offset ≠ 0)
  | .maxData _ => FrameTypeMaxData
  | .maxStreamData _ => FrameTypeMaxStreamData
  | .maxStreams f =>
    match f.type with
    | .bidi => FrameTypeBidiMaxStreams
    | .uni => FrameTypeUniMaxStreams
  | .dataBlocked _ => FrameTypeDataBlocked
  | .streamDataBlocked _ => FrameTypeStreamDataBlocked
  | .streamsBlocked f =>
    match f.type with
    | .bidi => FrameTypeBidiStreamBlocked
    | .uni => FrameTypeUniStreamBlocked
  | .newConnectionID _ => FrameTypeNewConnectionID
  | .retireConnectionID _ => FrameTypeRetireConnectionID
  | .pathChallenge _ => FrameTypePathChallenge
  | .pathResponse _ => FrameTypePathResponse
  | .connectionClose f =>
    if f.isApplicationError then FrameTypeApplicationClose else FrameTypeConnectionClose
  | .handshakeDone => FrameTypeHandshakeDone
  | .datagram f => 0x30 ^^^ if f.dataLenPresent then 0b1 else 0
  | .ackFrequency _ => FrameTypeAckFrequency
  | .immediateAck => FrameTypeImmediateAck

/-- The parser takes frames of this type at this encryption level. -/
def FrameParser.Takes (p : FrameParser) (encLevel : EncryptionLevel) (frameType : Nat) : Prop :=
  p.valid frameType = true ∧ isAllowedAtEncLevel frameType encLevel = true

/-- What is known of a frame that the parser returns. -/
def FrameParser.Accepts (p : FrameParser) (encLevel : EncryptionLevel) (f : WireFrame) : Prop :=
  f.WellFormed ∧ p.Takes encLevel f.frameType

/-! ## ACK frames -/

namespace Frames.AckFrame

theorem yields_parseRanges (numBlocks : Nat) : ∀ {smallest : PacketNumber}, smallest < 2 ^ 62 →
    Yields (fun rs => ∀ r ∈ rs, 0 ≤ r.smallest ∧ r.largest < 2 ^ 62)
      (parseRanges smallest numBlocks) := by
  induction numBlocks with
  | zero => exact fun _ => Yields.pure (by simp)
  | succ numBlocks ih =>
    intro smallest hsmallest
    refine yields_parseVarint.bind fun gap hgap => Yields.guard fun hle => ?_
    refine yields_parseVarint.bind fun ackBlock hblock => Yields.guard fun hle' => ?_
    have hlt : smallest - gap - 2 - ackBlock < 2 ^ 62 := by lia
    refine (ih hlt).bind fun rs hrs => Yields.pure ?_
    intro r hr
    obtain rfl | hr := List.mem_cons.mp hr
    · exact ⟨by lia, by lia⟩
    · exact hrs r hr

theorem yields_parse (typ exponent : Nat) :
    Yields (fun f : AckFrame => f.WellFormed ∧ (typ ≠ FrameTypeAckECN → f.hasECN = false))
      (parse typ exponent) := by
  refine yields_parseVarint.bind fun largestAcked hlargest => ?_
  refine yields_parseVarint.bind fun delay hdelay => ?_
  refine yields_parseVarint.bind fun numBlocks hnum => ?_
  refine yields_parseVarint.bind fun ackBlock hblock => Yields.guard fun hle => ?_
  have hlt : ((largestAcked : Int) - ackBlock) < 2 ^ 62 := by omega
  refine (yields_parseRanges numBlocks hlt).bind fun ranges hranges => Yields.guard fun hvalid => ?_
  have hbounds : ∀ r ∈ (⟨(largestAcked : Int) - ackBlock, largestAcked⟩ : AckRange) :: ranges,
      0 ≤ r.smallest ∧ r.largest < 2 ^ 62 := by
    intro r hr
    obtain rfl | hr := List.mem_cons.mp hr
    · exact ⟨by lia, by lia⟩
    · exact hranges r hr
  have hvalid := Bool.not_eq_false _ ▸ hvalid
  have hdelay : 0 ≤ decodeAckDelay delay exponent ∧ decodeAckDelay delay exponent ≤ MaxInt64 := by
    unfold decodeAckDelay
    exact int64_clamp _
  generalize decodeAckDelay delay exponent = delayTime at hvalid hdelay ⊢
  split
  · next hecn =>
    refine yields_parseVarint.bind fun ect0 h0 => ?_
    refine yields_parseVarint.bind fun ect1 h1 => ?_
    refine yields_parseVarint.bind fun ecnce hce => Yields.pure ?_
    exact ⟨⟨hvalid, hbounds, hdelay, h0, h1, hce⟩, fun h => absurd hecn h⟩
  · refine Yields.pure ⟨⟨hvalid, hbounds, hdelay, ?_, ?_, ?_⟩, ?_⟩
    iterate 3 exact Nat.two_pow_pos 62
    · exact fun _ => rfl

end Frames.AckFrame

/-! ## the other frames -/

variable (typ : Nat)

theorem StreamFrame.yields_parse :
    Yields (fun f => (WireFrame.stream f).WellFormed ∧ f.fin = typ.testBit 0 ∧
      f.dataLenPresent = typ.testBit 1) (parse typ) := by
  refine yields_parseVarint.bind fun streamID hid => ?_
  refine (yields_true _).bind fun offset _ => (yields_true _).bind fun data _ => ?_
  refine Yields.guard fun hsize => Yields.guard fun hmax => Yields.pure ?_
  refine ⟨⟨hid, ?_, not_lt.mp hmax⟩, rfl, rfl⟩
  by_contra hlt
  unfold MaxPacketBufferSize MinStreamFrameBufferSize at *
  exact hsize ⟨by lia, by lia⟩

theorem ResetStreamFrame.yields_parse (isResetStreamAt : Bool) :
    Yields (fun f => (WireFrame.resetStream f).WellFormed ∧
      (isResetStreamAt = false → f.reliableSize = 0)) (parse isResetStreamAt) := by
  refine yields_parseVarint.bind fun streamID hid => ?_
  refine yields_parseVarint.bind fun errorCode herr => ?_
  refine yields_parseVarint.bind fun finalSize hfinal => ?_
  refine (yields_parseVarintIf _).bind fun reliableSize hrel => Yields.guard fun hle => ?_
  refine Yields.pure ⟨⟨hid, herr, hfinal, not_lt.mp hle⟩, fun h => hrel.2 ?_⟩
  simp [h]

theorem MaxStreamsFrame.yields_parse :
    Yields (fun f => (WireFrame.maxStreams f).WellFormed ∧
      f.type = if typ = FrameTypeBidiMaxStreams then .bidi else .uni) (parse typ) :=
  yields_parseStreamCount.bind fun _ h => Yields.pure ⟨h, rfl⟩

theorem StreamsBlockedFrame.yields_parse :
    Yields (fun f => (WireFrame.streamsBlocked f).WellFormed ∧
      f.type = if typ = FrameTypeBidiStreamBlocked then .bidi else .uni) (parse typ) :=
  yields_parseStreamCount.bind fun _ h => Yields.pure ⟨h, rfl⟩

theorem NewConnectionIDFrame.yields_takeConnectionID {n : Nat} (h : n ≤ MaxConnIDLen) :
    Yields (fun c => c.len = n) (takeConnectionID n h) := by
  intro s r c s' r' hrun
  unfold takeConnectionID at hrun
  split at hrun
  · simp at hrun
  · next hle =>
    obtain ⟨⟨⟩, -⟩ := Prod.mk.inj hrun
    exact List.length_take_of_le (not_lt.mp hle)

theorem NewConnectionIDFrame.yields_parse :
    Yields (fun f => (WireFrame.newConnectionID f).WellFormed) parse := by
  refine yields_parseVarint.bind fun seq hseq => yields_parseVarint.bind fun ret hret => ?_
  refine Yields.guard fun hle => (yields_true readByte).bind fun connIDLen _ => ?_
  refine Yields.guard fun hzero => ?_
  split
  · exact Yields.fail _ _
  · next hmax =>
    refine (yields_takeConnectionID (not_lt.mp hmax)).bind fun c hc => ?_
    refine (yields_true takeToken).bind fun token _ => Yields.pure ⟨hseq, not_lt.mp hle, ?_⟩
    exact fun h => hzero (hc.symm.trans h)

theorem CryptoFrame.yields_parse : Yields (fun f => (WireFrame.crypto f).WellFormed) parse := by
  refine yields_parseVarint.bind fun offset hoffset => yields_parseVarint.bind fun n hn => ?_
  refine (yields_takeSlice n).bind fun data hdata => Yields.pure ⟨hoffset, ?_⟩
  exact hdata.trans_lt hn

theorem NewTokenFrame.yields_parse : Yields (fun f => (WireFrame.newToken f).WellFormed) parse := by
  refine yields_parseVarint.bind fun n hn => Yields.guard fun hzero => ?_
  refine (yields_takeSlice n).bind fun token htoken => Yields.pure ⟨htoken.trans_lt hn, ?_⟩
  exact fun h => hzero (htoken.symm.trans h)

theorem ConnectionCloseFrame.yields_parse :
    Yields (fun f => (WireFrame.connectionClose f).WellFormed ∧
      f.isApplicationError = decide (typ = FrameTypeApplicationClose)) (parse typ) := by
  refine yields_parseVarint.bind fun errorCode herr => ?_
  refine (yields_parseVarintIf _).bind fun frameType hft => ?_
  refine yields_parseVarint.bind fun n hn => (yields_takeSlice n).bind fun reason hreason => ?_
  refine Yields.pure ⟨⟨herr, hft.1, fun happ => hft.2 ?_, hreason.trans_lt hn⟩, rfl⟩
  simpa using happ

theorem DatagramFrame.yields_parse :
    Yields (fun f => (WireFrame.datagram f).WellFormed ∧ f.dataLenPresent = typ.testBit 0)
      (parse typ) := by
  refine (yields_parseData _).bind fun data hdata => Yields.pure ⟨hdata, rfl⟩

theorem AckFrequencyFrame.yields_parse :
    Yields (fun f => (WireFrame.ackFrequency f).WellFormed) parse := by
  refine yields_parseVarint.bind fun seq hseq => yields_parseVarint.bind fun aeth haeth => ?_
  refine yields_parseVarint.bind fun mad hmad => yields_parseVarint.bind fun rth hrth => ?_
  have hdelay : 0 ≤ decodeMaxAckDelay mad ∧ decodeMaxAckDelay mad ≤ MaxInt64 := by
    unfold decodeMaxAckDelay
    exact int64_clamp _
  generalize decodeMaxAckDelay mad = maxAckDelay at hdelay ⊢
  have hrth' : (rth : Int) < 2 ^ 62 := by omega
  exact Yields.pure ⟨hseq, haeth, hdelay, Int.natCast_nonneg rth, hrth'⟩

/-! ## the parser -/

namespace FrameParser

variable {p : FrameParser} {encLevel : EncryptionLevel} {frameType : Nat}

theorem yields_return {α : Type} {q : Parse FrameError Unit α} {mk : α → WireFrame}
    (hq : Yields (fun f => (mk f).WellFormed) q) (htype : ∀ f, (mk f).frameType = frameType)
    (ht : p.Takes encLevel frameType) :
    Yields (p.Accepts encLevel) (do return mk (← q)) :=
  hq.bind fun f hf => Yields.pure ⟨hf, (htype f).symm ▸ ht⟩

theorem yields_accepts {α : Type} {q : Parse FrameError Unit α} {mk : α → WireFrame} {P : α → Prop}
    (hq : Yields (fun f => (mk f).WellFormed ∧ P f) q)
    (htakes : ∀ f, P f → p.Takes encLevel (mk f).frameType) :
    Yields (p.Accepts encLevel) (do return mk (← q)) :=
  hq.bind fun f hf => Yields.pure ⟨hf.1, htakes f hf.2⟩

/-- The eight types of STREAM frames. -/
theorem isStreamFrameType_streamFrameType : ∀ fin hasDataLen hasOffset : Bool,
    isStreamFrameType (streamFrameType fin hasDataLen hasOffset) = true := by
  decide

theorem isAllowedAtEncLevel_stream (encLevel : EncryptionLevel) : ∀ t ≤ 0xf, 0x8 ≤ t →
    isAllowedAtEncLevel t encLevel = isAllowedAtEncLevel 0x8 encLevel := by
  cases encLevel <;> decide

theorem Takes.stream {t : Nat} (h : p.Takes encLevel frameType)
    (hft : isStreamFrameType frameType = true) (ht : isStreamFrameType t = true) :
    p.Takes encLevel t := by
  simp only [isStreamFrameType, Bool.and_eq_true, decide_eq_true_eq] at hft ht
  constructor
  · simp only [valid, isValidRFC9000, Bool.or_eq_true, decide_eq_true_eq]
    omega
  · rw [isAllowedAtEncLevel_stream encLevel t ht.2 ht.1,
      ← isAllowedAtEncLevel_stream encLevel frameType hft.2 hft.1]
    exact h.2

theorem Takes.ack (h : p.Takes encLevel FrameTypeAckECN) : p.Takes encLevel FrameTypeAck := by
  refine ⟨rfl, ?_⟩
  cases encLevel with
  | initial | handshake | oneRTT => rfl
  | zeroRTT => exact h.2

theorem Takes.resetStream (h : p.Takes encLevel FrameTypeResetStreamAt) :
    p.Takes encLevel FrameTypeResetStream := by
  refine ⟨rfl, ?_⟩
  cases encLevel with
  | initial | handshake => exact h.2
  | zeroRTT | oneRTT => rfl

/-! ## the frames of each type -/

section

variable (h : p.Takes encLevel frameType)

include h

theorem yields_stream (hft : isStreamFrameType frameType = true) :
    Yields (p.Accepts encLevel) (do return .stream (← StreamFrame.parse frameType)) := by
  refine yields_accepts (StreamFrame.yields_parse frameType) fun f _ => ?_
  exact h.stream hft (isStreamFrameType_streamFrameType _ _ _)

theorem yields_ack (hft : isAckFrameType frameType = true) (exponent : Nat) :
    Yields (p.Accepts encLevel) (do return .ack (← Frames.AckFrame.parse frameType exponent)) := by
  refine yields_accepts (Frames.AckFrame.yields_parse frameType exponent) fun f hf => ?_
  rw [WireFrame.frameType]
  by_cases hecn : frameType = FrameTypeAckECN
  · subst hecn
    split
    · exact h
    · exact h.ack
  · rw [hf hecn]
    simp only [isAckFrameType, Bool.or_eq_true, decide_eq_true_eq] at hft
    obtain rfl | hft := hft
    · exact h
    · exact absurd hft hecn

theorem yields_datagram (hft : isDatagramFrameType frameType = true) :
    Yields (p.Accepts encLevel) (do return .datagram (← DatagramFrame.parse frameType)) := by
  refine yields_accepts (DatagramFrame.yields_parse frameType) fun f hf => ?_
  rw [WireFrame.frameType, hf]
  simp only [isDatagramFrameType, Bool.or_eq_true, decide_eq_true_eq] at hft
  obtain rfl | rfl := hft <;> exact h

theorem yields_parseLessCommonFrame :
    Yields (p.Accepts encLevel) (parseLessCommonFrame frameType) := by
  unfold parseLessCommonFrame
  split
  · exact Yields.pure ⟨trivial, h⟩
  · refine yields_accepts (ResetStreamFrame.yields_parse false) fun f hf => ?_
    rw [WireFrame.frameType, if_pos (hf rfl)]
    exact h
  · exact yields_return (yields_parseVarint.bind fun _ hv => yields_parseVarint.bind fun _ hw =>
      Yields.pure ⟨hv, hw⟩) (fun _ => rfl) h
  · exact yields_return CryptoFrame.yields_parse (fun _ => rfl) h
  · exact yields_return NewTokenFrame.yields_parse (fun _ => rfl) h
  · exact yields_return (yields_parseVarint.bind fun _ hv => Yields.pure hv) (fun _ => rfl) h
  · exact yields_return (yields_parseVarint.bind fun _ hv => yields_parseVarint.bind fun _ hw =>
      Yields.pure ⟨hv, hw⟩) (fun _ => rfl) h
  iterate 2
    · refine yields_accepts (MaxStreamsFrame.yields_parse _) fun f hf => ?_
      rw [WireFrame.frameType, hf]
      exact h
  · exact yields_return (yields_parseVarint.bind fun _ hv => Yields.pure hv) (fun _ => rfl) h
  · exact yields_return (yields_parseVarint.bind fun _ hv => yields_parseVarint.bind fun _ hw =>
      Yields.pure ⟨hv, hw⟩) (fun _ => rfl) h
  iterate 2
    · refine yields_accepts (StreamsBlockedFrame.yields_parse _) fun f hf => ?_
      rw [WireFrame.frameType, hf]
      exact h
  · exact yields_return NewConnectionIDFrame.yields_parse (fun _ => rfl) h
  · exact yields_return (yields_parseVarint.bind fun _ hv => Yields.pure hv) (fun _ => rfl) h
  iterate 2 exact (yields_true _).bind fun f _ => Yields.pure ⟨trivial, h⟩
  iterate 2
    · refine yields_accepts (ConnectionCloseFrame.yields_parse _) fun f hf => ?_
      rw [WireFrame.frameType, hf]
      exact h
  · exact Yields.pure ⟨trivial, h⟩
  · refine yields_accepts (ResetStreamFrame.yields_parse true) fun f _ => ?_
    rw [WireFrame.frameType]
    split
    · exact h.resetStream
    · exact h
  · exact yields_return AckFrequencyFrame.yields_parse (fun _ => rfl) h
  · exact Yields.pure ⟨trivial, h⟩
  · exact Yields.fail _ _

theorem yields_parseFrame : Yields (p.Accepts encLevel) (p.parseFrame encLevel frameType) := by
  unfold parseFrame
  split
  · next hft => exact yields_stream h hft
  · split
    · next hft => exact yields_ack h hft _
    · split
      · next hft => exact yields_datagram h hft
      · exact yields_parseLessCommonFrame h

end

theorem yields_parseTypeLoop (n : Nat) :
    Yields (p.Takes encLevel) (p.parseTypeLoop encLevel n) := by
  induction n with
  | zero => exact Yields.fail _ _
  | succ n ih =>
    intro s b t s' b' hrun
    unfold parseTypeLoop at hrun
    split at hrun
    · simp at hrun
    · refine Yields.bind (yields_true _) (fun typ _ => ?_) s b t s' b' hrun
      split
      · exact ih
      · refine Yields.guard fun hvalid => Yields.guard fun hallowed => Yields.pure ?_
        exact ⟨eq_true_of_ne_false hvalid, eq_true_of_ne_false hallowed⟩

/-- **What the parser accepts**: a frame with the checked fields, whose type in the encoding of
`append` is taken at the same encryption level. -/
theorem accepts_of_parse {b : Bytes} {f : WireFrame} {n : Nat}
    (h : p.parse encLevel b = .ok (f, n)) : p.Accepts encLevel f := by
  unfold parse at h
  split at h
  · next hrun =>
    obtain ⟨rfl, -⟩ := Prod.mk.inj (Except.ok.inj h)
    have hyields : Yields (p.Accepts encLevel) (p.parseNext encLevel) :=
      Yields.bind (fun s b => yields_parseTypeLoop b.length s b) fun t ht =>
        (yields_parseFrame ht).mapError
    exact hyields _ _ _ _ _ hrun
  · cases h

end FrameParser

end Quic

end MoqQuic
