import MoqQuic.Lib.ClosedRanges
import MoqQuic.Quic.SentPacketHistory

/-!
# MoqQuic.Quic.ReceivedPacketHistory

Which packet numbers of a space were received: `internal/ackhandler/received_packet_history.go`.

The ranges are in ascending order. Most loops of the source go through them backwards; they are
functions on the reversed list here.
-/

namespace MoqQuic.Quic

/-- `interval`: the packet numbers from `Start` to `End`. -/
abbrev Interval : Type := ClosedRange

/-- The maximum length of the list of ranges. -/
def MaxNumAckRanges : Nat := 64

structure ReceivedPacketHistory where
  ranges : List Interval := []
  deletedBelow : PacketNumber := InvalidPacketNumber
  deriving DecidableEq, Repr

namespace ReceivedPacketHistory

/-- Extend a range at the beginning; the others are those before it, from the highest down. -/
def extendDown (p : Int) (r : Interval) : List Interval → List Interval
  | [] => [{ r with start := p }]
  | r' :: rs =>
    -- merge two ranges
    if r'.stop + 1 = p then { r' with stop := r.stop } :: rs
    else { r with start := p } :: r' :: rs

/-- The loop of `addToRanges`, over the ranges from the highest down: whether the packet is new. -/
def addDown (p : Int) : List Interval → Bool × List Interval
  | [] => (true, [⟨p, p⟩])
  | r :: rs =>
    if p ≥ r.start ∧ p ≤ r.stop then (false, r :: rs)
    -- extend a range at the end
    else if r.stop = p - 1 then (true, { r with stop := p } :: rs)
    else if r.start = p + 1 then (true, extendDown p r rs)
    -- a new range after the current one
    else if p > r.stop then (true, ⟨p, p⟩ :: r :: rs)
    else
      let (isNew, rs) := addDown p rs
      (isNew, r :: rs)

/-- `addToRanges`: whether the packet is new. -/
def addToRanges (h : ReceivedPacketHistory) (p : PacketNumber) : Bool × ReceivedPacketHistory :=
  let (isNew, ranges) := addDown p h.ranges.reverse
  (isNew, { h with ranges := ranges.reverse })

/-- The number of ranges that are deleted because there are too many of them. -/
def excess (h : ReceivedPacketHistory) : Nat := h.ranges.length - MaxNumAckRanges

/-- `ReceivedPacket`: whether the packet is new, and neither a duplicate nor delayed. -/
def receivedPacket (h : ReceivedPacketHistory) (p : PacketNumber) : Bool × ReceivedPacketHistory :=
  -- ignore delayed packets, if we already deleted the range
  if p < h.deletedBelow then (false, h)
  else
    let (isNew, h) := h.addToRanges p
    (isNew, if h.ranges.length > MaxNumAckRanges then
      { h with ranges := h.ranges.drop h.excess } else h)

/-- The loop of `DeleteBelow`. -/
def deleteUp (p : Int) : List Interval → List Interval
  | [] => []
  | r :: rs =>
    if r.stop < p then deleteUp p rs
    else if p > r.start ∧ p ≤ r.stop then { r with start := p } :: rs
    else r :: rs

def deleteBelow (h : ReceivedPacketHistory) (p : PacketNumber) : ReceivedPacketHistory :=
  if p < h.deletedBelow then h else { ranges := deleteUp p h.ranges, deletedBelow := p }

/-- `Backward`: the ranges in reverse order. -/
def backward (h : ReceivedPacketHistory) : List Interval := h.ranges.reverse

/-- The loop of `HighestMissingUpTo`. -/
def missingDown (deletedBelow p : Int) : List Interval → Int
  | [] => p
  | r :: rs =>
    if p ≥ r.start ∧ p ≤ r.stop then
      -- the highest packet in the gap before this range
      let highest := r.start - 1
      if deletedBelow ≠ InvalidPacketNumber ∧ highest < deletedBelow then InvalidPacketNumber
      else highest
    -- in the gap between the previous range and this range
    else if rs.head?.any (fun r' => decide (p > r'.stop)) = true ∧ p ≤ r.start then p
    else missingDown deletedBelow p rs

def highestMissingUpTo (h : ReceivedPacketHistory) (p : PacketNumber) : PacketNumber :=
  match h.ranges.getLast? with
  | none => InvalidPacketNumber
  | some last =>
    if h.deletedBelow ≠ InvalidPacketNumber ∧ p < h.deletedBelow then InvalidPacketNumber
    else missingDown h.deletedBelow (min last.stop p) h.ranges.reverse

/-- The loop of `IsPotentiallyDuplicate`. -/
def duplicateDown (p : Int) : List Interval → Bool
  | [] => false
  | r :: rs =>
    if p > r.stop then false
    else if p ≤ r.stop ∧ p ≥ r.start then true
    else duplicateDown p rs

def isPotentiallyDuplicate (h : ReceivedPacketHistory) (p : PacketNumber) : Bool :=
  if p < h.deletedBelow then true else duplicateDown p h.ranges.reverse

end ReceivedPacketHistory

end MoqQuic.Quic
