import MoqQuic.Quic.SentPacketHandler

/-!
# MoqQuic.Quic.Frames.Ack

The ranges of an ACK frame: `AckFrame` of `internal/wire/ack_frame.go`, as it is received or put
together.

The ranges of this frame may be anything; `validateAckRanges` accepts exactly those that make an
`AckFrame` of the handler for sent packets. The functions that index into the ranges panic when
there are none.
-/

namespace MoqQuic.Quic.Frames

/-- `wire.AckFrame`: the highest range goes first. -/
structure AckFrame where
  ackRanges : List AckRange := []
  delayTime : Duration := 0
  ect0 : Nat := 0
  ect1 : Nat := 0
  ecnce : Nat := 0
  deriving DecidableEq, Repr

namespace AckFrame

/-- The loop of `validateAckRanges` over the ranges and those after them. -/
def consistent : List AckRange → Bool
  | r :: r' :: rs =>
    if r.smallest ≤ r'.smallest then false
    else if r.smallest ≤ r'.largest + 1 then false
    else consistent (r' :: rs)
  | _ => true

def validateAckRanges (f : AckFrame) : Bool :=
  if f.ackRanges.length = 0 then false
  else if f.ackRanges.any fun r => decide (r.smallest > r.largest) then false
  else consistent f.ackRanges

/-- `LargestAcked`; nothing when it panics. -/
def largestAcked (f : AckFrame) : Option PacketNumber := f.ackRanges.head?.map (·.largest)

/-- `LowestAcked`; nothing when it panics. -/
def lowestAcked (f : AckFrame) : Option PacketNumber := f.ackRanges.getLast?.map (·.smallest)

/-- `AcksPacket`; nothing when it panics. -/
def acksPacket (f : AckFrame) (p : PacketNumber) : Option Bool := do
  let lowest ← f.lowestAcked
  let largest ← f.largestAcked
  if p < lowest ∨ p > largest then return false
  let r ← searchRange f.ackRanges p
  return decide (p ≤ r.largest)

/-! ## the ranges that are accepted -/

theorem consistent_iff {rs : List AckRange} (hvalid : ∀ r ∈ rs, r.smallest ≤ r.largest) :
    consistent rs = true ↔ rs.Pairwise fun r r' => r'.largest + 1 < r.smallest := by
  induction rs with
  | nil => simp [consistent]
  | cons r rs ih =>
    have hrest := ih fun r' hr' => hvalid r' (List.mem_cons_of_mem _ hr')
    cases rs with
    | nil => simp [consistent]
    | cons r' rs =>
      have hr' := hvalid r' (by simp)
      rw [consistent, List.pairwise_cons]
      constructor
      · intro h
        split at h
        · cases h
        · rename_i hsmaller
          split at h
          · cases h
          · rename_i hgap
            have hpair := hrest.mp h
            refine ⟨fun r'' hr'' => ?_, hpair⟩
            -- the ranges after the next one are below it
            obtain rfl | hr'' := List.mem_cons.mp hr''
            · exact not_le.mp hgap
            · have hnext := (List.pairwise_cons.mp hpair).1 r'' hr''
              grind
      · intro h
        have hlt := h.1 r' List.mem_cons_self
        rw [if_neg (by grind), if_neg (by grind)]
        exact hrest.mpr h.2

/-- **`validateAckRanges`** accepts the lists of ranges that are not empty, in descending order and
with gaps between them. -/
theorem validateAckRanges_iff (f : AckFrame) : f.validateAckRanges = true ↔
    f.ackRanges ≠ [] ∧ (∀ r ∈ f.ackRanges, r.smallest ≤ r.largest) ∧
      f.ackRanges.Pairwise fun r r' => r'.largest + 1 < r.smallest := by
  rw [validateAckRanges]
  by_cases hnil : f.ackRanges = []
  · simp [hnil]
  · by_cases hvalid : ∀ r ∈ f.ackRanges, r.smallest ≤ r.largest
    · rw [if_neg (by simpa using hnil), if_neg (by simpa using hvalid), consistent_iff hvalid]
      exact ⟨fun h => ⟨hnil, hvalid, h⟩, fun h => h.2.2⟩
    · rw [if_neg (by simpa using hnil), if_pos (by simpa using hvalid)]
      exact ⟨fun h => absurd h (by decide), fun h => absurd h.2.1 hvalid⟩

/-- The frame that the handler for sent packets gets. -/
def validated (f : AckFrame) (h : f.validateAckRanges = true) : Quic.AckFrame where
  ackRanges := f.ackRanges
  nonempty := (f.validateAckRanges_iff.mp h).1
  valid := (f.validateAckRanges_iff.mp h).2.1
  descending := (f.validateAckRanges_iff.mp h).2.2

theorem largestAcked_validated {f : AckFrame} (h : f.validateAckRanges = true) :
    f.largestAcked = some (f.validated h).largestAcked := by
  rw [largestAcked, List.head?_eq_some_head (f.validateAckRanges_iff.mp h).1]
  rfl

theorem lowestAcked_validated {f : AckFrame} (h : f.validateAckRanges = true) :
    f.lowestAcked = some (f.validated h).lowestAcked := by
  rw [lowestAcked, List.getLast?_eq_some_getLast (f.validateAckRanges_iff.mp h).1]
  rfl

end AckFrame

end MoqQuic.Quic.Frames
