import MoqQuic.Lib.Append
import MoqQuic.Quic.Frames.Codec

/-!
# MoqQuic.Quic.Frames.Appends

Writing a frame only adds to the slice: what `append` adds does not depend on what the slice holds.
This is true of all frames, also of those that cannot be written.
-/

namespace MoqQuic.Quic

theorem appendVarint_appends (i : Nat) : Appends (appendVarint · i) := by
  by_cases h : i < 2 ^ 62
  · exact .of_ok (Quicvarint.encode i) fun b => by
      simp only [appendVarint, Quicvarint.append_eq b h]
  · intro b
    simp only [appendVarint, Quicvarint.append_eq_none h]
    rfl

theorem appendVarintIf_appends (c : Bool) (i : Nat) : Appends (appendVarintIf c · i) := by
  cases c with
  | true => exact appendVarint_appends i
  | false => exact .nil

theorem type_varint_appends (t : UInt8) (i : Nat) : Appends (fun b => appendVarint (b ++ [t]) i) :=
  (Appends.bytes [t]).bind (appendVarint_appends i)

namespace Frames.AckFrame

theorem appendRange_appends (r : Nat × Nat) : Appends (appendRange · r) :=
  (appendVarint_appends r.1).bind (appendVarint_appends r.2)

theorem append_appends (f : AckFrame) : Appends f.append := by
  unfold append
  cases f.ackRanges with
  | nil => exact .error _
  | cons first rs =>
    refine (type_varint_appends _ _).bind ((appendVarint_appends _).bind
      ((appendVarint_appends _).bind ((appendVarint_appends _).bind
        ((Appends.foldlM _ fun r _ => appendRange_appends r).bind ?_))))
    split
    · exact (appendVarint_appends _).bind ((appendVarint_appends _).bind (appendVarint_appends _))
    · exact .nil

end Frames.AckFrame

theorem StreamFrame.append_appends (f : StreamFrame) : Appends f.append := by
  unfold append
  by_cases h : f.data.length = 0 ∧ f.fin = false
  · simp only [if_pos h]
    exact .error _
  · simp only [if_neg h]
    exact (type_varint_appends _ _).bind ((appendVarintIf_appends _ _).bind
      ((appendVarintIf_appends _ _).bind (.bytes _)))

theorem ResetStreamFrame.append_appends (f : ResetStreamFrame) : Appends f.append :=
  (appendVarint_appends _).bind ((appendVarint_appends _).bind ((appendVarint_appends _).bind
    ((appendVarint_appends _).bind (appendVarintIf_appends _ _))))

theorem MaxStreamsFrame.append_appends (f : MaxStreamsFrame) : Appends f.append := by
  unfold append
  cases f.type with
  | bidi | uni => exact type_varint_appends _ _

theorem StreamsBlockedFrame.append_appends (f : StreamsBlockedFrame) : Appends f.append := by
  unfold append
  cases f.type with
  | bidi | uni => exact type_varint_appends _ _

theorem NewConnectionIDFrame.append_appends (f : NewConnectionIDFrame) : Appends f.append := by
  refine (type_varint_appends _ _).bind ((appendVarint_appends _).bind ?_)
  by_cases h : f.connectionID.len > MaxConnIDLen
  · simp only [if_pos h]
    exact .error _
  · simp only [if_neg h]
    exact ((Appends.bytes _).bind (.bytes _)).bind (.bytes _)

/-- **Writing a frame** only adds to the slice. -/
theorem WireFrame.append_appends (f : WireFrame) : Appends f.append := by
  cases f with
  | ping | handshakeDone => exact .bytes _
  | ack f => exact f.append_appends
  | resetStream f => exact f.append_appends
  | stopSending | maxStreamData | streamDataBlocked =>
    exact (type_varint_appends _ _).bind (appendVarint_appends _)
  | crypto f =>
    exact (type_varint_appends _ _).bind ((appendVarint_appends _).bind (.bytes _))
  | newToken f => exact (type_varint_appends _ _).bind (.bytes _)
  | stream f => exact f.append_appends
  | maxData | dataBlocked | retireConnectionID => exact type_varint_appends _ _
  | maxStreams f => exact f.append_appends
  | streamsBlocked f => exact f.append_appends
  | newConnectionID f => exact f.append_appends
  | pathChallenge f | pathResponse f => exact (Appends.bytes _).bind (.bytes _)
  | connectionClose f =>
    exact (type_varint_appends _ _).bind ((appendVarintIf_appends _ _).bind
      ((appendVarint_appends _).bind (.bytes _)))
  | datagram f =>
    exact (Appends.bytes _).bind ((appendVarintIf_appends _ _).bind (.bytes _))
  | ackFrequency f =>
    exact (appendVarint_appends _).bind ((appendVarint_appends _).bind
      ((appendVarint_appends _).bind ((appendVarint_appends _).bind (appendVarint_appends _))))
  | immediateAck => exact appendVarint_appends FrameTypeImmediateAck

end MoqQuic.Quic
