import MoqQuic.Quic.Frames.Ack
import MoqQuic.Quic.ReceivedPacketHistory

/-!
# MoqQuic.Quic.ReceivedPacketTracker

When received packets are acknowledged: `internal/ackhandler/received_packet_tracker.go`.

`ReceivedPacketTracker` is the tracker of the Initial and of the Handshake packets, which are
acknowledged immediately. `AppDataReceivedPacketTracker` waits for a second packet or for
`max_ack_delay`. The frame that `GetAckFrame` returns is the one that the tracker keeps as
`lastAck`.

A call to `ReceivedPacket` returns the tracker after it and perhaps an error; a panic, of an ACK
frame without ranges, has no tracker after it.
-/

namespace MoqQuic.Quic

inductive ECN where
  | ecnUnsupported
  | ecnNon
  | ect1
  | ect0
  | ecnce
  deriving DecidableEq, Repr

/-- `receivedPacketTracker BUG: ReceivedPacket called for old / duplicate packet`. -/
inductive TrackerError where
  | oldOrDuplicatePacket (pn : PacketNumber)
  deriving DecidableEq, Repr

/-- The index is out of range: the last ACK frame has no ranges. -/
inductive TrackerPanic where
  | noAckRanges
  deriving DecidableEq, Repr

def reorderingThreshold : Int := 1

/-- The maximum time by which we delay sending ACKs. -/
def MaxAckDelay : Duration := 25 * millisecond

/-- The number of ack-eliciting packets received before sending an ACK. -/
def packetsBeforeAck : Nat := 2

/-! ## Initial and Handshake packets -/

structure ReceivedPacketTracker where
  ect0 : Nat := 0
  ect1 : Nat := 0
  ecnce : Nat := 0
  packetHistory : ReceivedPacketHistory := {}
  lastAck : Option Frames.AckFrame := none
  /-- true as soon as we received an ack-eliciting new packet -/
  hasNewAck : Bool := false
  deriving DecidableEq, Repr

namespace ReceivedPacketTracker

/-- Count the packets with each mark. -/
def count (h : ReceivedPacketTracker) : ECN → ReceivedPacketTracker
  | .ect0 => { h with ect0 := h.ect0 + 1 }
  | .ect1 => { h with ect1 := h.ect1 + 1 }
  | .ecnce => { h with ecnce := h.ecnce + 1 }
  | _ => h

def receivedPacket (h : ReceivedPacketTracker) (pn : PacketNumber) (ecn : ECN)
    (ackEliciting : Bool) : Option TrackerError × ReceivedPacketTracker :=
  let (isNew, history) := h.packetHistory.receivedPacket pn
  let h := { h with packetHistory := history }
  if !isNew then (some (.oldOrDuplicatePacket pn), h)
  else
    let h := h.count ecn
    if !ackEliciting then (none, h) else (none, { h with hasNewAck := true })

/-- The frame with the ranges of the history. -/
def ackFrame (h : ReceivedPacketTracker) : Frames.AckFrame where
  ackRanges := h.packetHistory.backward.map fun r => { smallest := r.start, largest := r.stop }
  ect0 := h.ect0
  ect1 := h.ect1
  ecnce := h.ecnce

def getAckFrame (h : ReceivedPacketTracker) : Option Frames.AckFrame × ReceivedPacketTracker :=
  if !h.hasNewAck then (none, h)
  else (some h.ackFrame, { h with lastAck := some h.ackFrame, hasNewAck := false })

def isPotentiallyDuplicate (h : ReceivedPacketTracker) (pn : PacketNumber) : Bool :=
  h.packetHistory.isPotentiallyDuplicate pn

end ReceivedPacketTracker

/-! ## application data -/

structure AppDataReceivedPacketTracker extends ReceivedPacketTracker where
  largestObservedRcvdTime : Time := 0
  largestObserved : PacketNumber := 0
  ignoreBelow : PacketNumber := 0
  maxAckDelay : Duration := MaxAckDelay
  /-- true if we need to send a new ACK -/
  ackQueued : Bool := false
  ackElicitingPacketsReceivedSinceLastAck : Nat := 0
  ackAlarm : Time := 0
  deriving DecidableEq, Repr

namespace AppDataReceivedPacketTracker

/-- The value that indexing into the ranges of the last frame gives. -/
def orPanic {α : Type} : Option α → Except TrackerPanic α
  | some a => .ok a
  | none => .error .noAckRanges

/-- `isMissing`: whether a packet was reported missing in the last ACK. -/
def isMissing (h : AppDataReceivedPacketTracker) (p : PacketNumber) : Except TrackerPanic Bool :=
  match h.lastAck with
  | none => .ok false
  | some ack =>
    if p < h.ignoreBelow then .ok false
    else do
      let largest ← orPanic ack.largestAcked
      if p < largest then
        let acked ← orPanic (ack.acksPacket p)
        return !acked
      else return false

def hasNewMissingPackets (h : AppDataReceivedPacketTracker) : Except TrackerPanic Bool :=
  match h.lastAck with
  | none => .ok false
  | some ack =>
    if h.largestObserved < reorderingThreshold then .ok false
    else
      let highestMissing :=
        h.packetHistory.highestMissingUpTo (h.largestObserved - reorderingThreshold)
      if highestMissing = InvalidPacketNumber then .ok false
      else do
        let largest ← orPanic ack.largestAcked
        -- the packet was already reported missing in the last ACK
        if highestMissing < largest then return false
        else return decide (highestMissing > largest - reorderingThreshold)

def shouldQueueACK (h : AppDataReceivedPacketTracker) (ecn : ECN) (wasMissing : Bool) :
    Except TrackerPanic Bool :=
  -- the packet was reported missing in an ACK sent before
  if wasMissing then .ok true
  -- send an ACK every 2 ack-eliciting packets
  else if h.ackElicitingPacketsReceivedSinceLastAck ≥ packetsBeforeAck then .ok true
  else do
    if ← h.hasNewMissingPackets then return true
    else return decide (ecn = .ecnce)

/-- The last part of `ReceivedPacket`: an ACK is queued, or the alarm is set. -/
def queueACK (h : AppDataReceivedPacketTracker) (pn : PacketNumber) (ecn : ECN) (rcvTime : Time) :
    Except TrackerPanic AppDataReceivedPacketTracker := do
  let isMissing ← h.isMissing pn
  let h ← if h.ackQueued then pure h
    else do
      if ← h.shouldQueueACK ecn isMissing then
        -- cancel the ack alarm
        pure { h with ackQueued := true, ackAlarm := 0 }
      else pure h
  -- no ACK queued, but we will need to acknowledge the packet after max_ack_delay
  return if h.ackQueued then h else { h with ackAlarm := rcvTime + h.maxAckDelay }

def receivedPacket (h : AppDataReceivedPacketTracker) (pn : PacketNumber) (ecn : ECN)
    (rcvTime : Time) (ackEliciting : Bool) :
    Except TrackerPanic (Option TrackerError × AppDataReceivedPacketTracker) :=
  let (err, base) := h.toReceivedPacketTracker.receivedPacket pn ecn ackEliciting
  let h := { h with toReceivedPacketTracker := base }
  match err with
  | some err => .ok (some err, h)
  | none =>
    let h := if pn ≥ h.largestObserved then
      { h with largestObserved := pn, largestObservedRcvdTime := rcvTime } else h
    if !ackEliciting then .ok (none, h)
    else do
      let h := { h with
        ackElicitingPacketsReceivedSinceLastAck := h.ackElicitingPacketsReceivedSinceLastAck + 1 }
      let h ← h.queueACK pn ecn rcvTime
      return (none, h)

/-- `IgnoreBelow` sets a lower limit for acknowledging packets. -/
def setIgnoreBelow (h : AppDataReceivedPacketTracker) (pn : PacketNumber) :
    AppDataReceivedPacketTracker :=
  if pn ≤ h.ignoreBelow then h
  else { h with ignoreBelow := pn, packetHistory := h.packetHistory.deleteBelow pn }

def getAckFrame (h : AppDataReceivedPacketTracker) (now : Time) (onlyIfQueued : Bool) :
    Option Frames.AckFrame × AppDataReceivedPacketTracker :=
  if onlyIfQueued ∧ ¬ h.ackQueued ∧ (h.ackAlarm = 0 ∨ h.ackAlarm > now) then (none, h)
  else
    match h.toReceivedPacketTracker.getAckFrame with
    | (none, base) => (none, { h with toReceivedPacketTracker := base })
    | (some ack, base) =>
      let ack := { ack with delayTime := max 0 (now - h.largestObservedRcvdTime) }
      (some ack, { h with
        toReceivedPacketTracker := { base with lastAck := some ack }
        ackQueued := false
        ackAlarm := 0
        ackElicitingPacketsReceivedSinceLastAck := 0 })

end AppDataReceivedPacketTracker

end MoqQuic.Quic
