import MoqQuic.Congestion.Bbrv3

/-!
# MoqQuic.Quic.SentPacketHistory

The packets of one packet number space that are being tracked:
`internal/ackhandler/packet.go` and `sent_packet_history.go`.

The history is a slice with one place for each packet number from `firstPacketNumber`
on; a place is empty when the number was skipped or its packet is not tracked any more.
A path probe packet has a stub in the slice and is kept in a list of its own.

A packet is a value here: once the source changes a packet, no history refers to it any
more.
-/

namespace MoqQuic.Quic

abbrev PacketNumber : Type := Int

def InvalidPacketNumber : PacketNumber := -1

inductive EncryptionLevel where
  | initial
  | handshake
  | zeroRTT
  | oneRTT
  deriving DecidableEq, Repr

/-- `Frame` and `StreamFrame` of the package: a frame and whether it has a handler. -/
structure SentFrame (φ : Type) where
  frame : φ
  hasHandler : Bool
  deriving DecidableEq, Repr

/-- `packet`; the encryption level is missing in the stub of a path probe packet. -/
structure Packet (φ : Type) where
  sendTime : Time := 0
  streamFrames : List (SentFrame φ) := []
  frames : List (SentFrame φ) := []
  largestAcked : PacketNumber := 0
  length : Nat := 0
  encryptionLevel : Option EncryptionLevel := none
  isPathMTUProbePacket : Bool := false
  includedInBytesInFlight : Bool := false
  isPathProbePacket : Bool := false
  deriving DecidableEq, Repr

/-- The ways in which the handler panics. -/
inductive HandlerPanic where
  | nonSequentialPacketNumber
  | negativeNumberOfOutstandingPackets
  | cleanupFailed
  | negativeBytesInFlight
  | noFrames
  | cannotDropKeys
  | invalidPacketNumberSpace
  | nilDereference
  deriving DecidableEq, Repr

variable {φ : Type}

namespace Packet

def isAckEliciting (p : Packet φ) : Bool := !p.streamFrames.isEmpty || !p.frames.isEmpty

def outstanding (p : Packet φ) : Bool :=
  !p.isPathMTUProbePacket && !p.isPathProbePacket && p.isAckEliciting

end Packet

abbrev NumberedPacket (φ : Type) : Type := PacketNumber × Packet φ

structure SentPacketHistory (φ : Type) where
  packets : List (Option (Packet φ)) := []
  pathProbePackets : List (NumberedPacket φ) := []
  skippedPackets : List PacketNumber := []
  numOutstanding : Int := 0
  firstPacketNumber : PacketNumber := InvalidPacketNumber
  highestPacketNumber : PacketNumber := InvalidPacketNumber
  deriving DecidableEq, Repr

def maxSkippedPackets : Nat := 4

namespace SentPacketHistory

def checkSequentialPacketNumberUse (h : SentPacketHistory φ) (pn : PacketNumber) :
    Except HandlerPanic (SentPacketHistory φ) :=
  if h.highestPacketNumber ≠ InvalidPacketNumber ∧ pn ≠ h.highestPacketNumber + 1 then
    .error .nonSequentialPacketNumber
  else
    .ok { h with
      highestPacketNumber := pn
      firstPacketNumber := if h.packets.isEmpty then pn else h.firstPacketNumber }

def skippedPacket (h : SentPacketHistory φ) (pn : PacketNumber) :
    Except HandlerPanic (SentPacketHistory φ) := do
  let h ← h.checkSequentialPacketNumberUse pn
  let skipped := if h.skippedPackets.length = maxSkippedPackets then h.skippedPackets.tail
    else h.skippedPackets
  return { h with
    packets := if h.packets.isEmpty then h.packets else h.packets ++ [none]
    skippedPackets := skipped ++ [pn] }

def sentPacket (h : SentPacketHistory φ) (pn : PacketNumber) (p : Packet φ) :
    Except HandlerPanic (SentPacketHistory φ) := do
  let h ← h.checkSequentialPacketNumberUse pn
  return { h with
    packets := h.packets ++ [some p]
    numOutstanding := if p.outstanding then h.numOutstanding + 1 else h.numOutstanding }

def sentPathProbePacket (h : SentPacketHistory φ) (pn : PacketNumber) (p : Packet φ) :
    Except HandlerPanic (SentPacketHistory φ) := do
  let h ← h.checkSequentialPacketNumberUse pn
  return { h with
    packets := h.packets ++ [some { isPathProbePacket := true }]
    pathProbePackets := h.pathProbePackets ++ [(pn, p)] }

/-- The packets in a slice that starts at `pn`. -/
def packetsFrom (pn : PacketNumber) : List (Option (Packet φ)) → List (NumberedPacket φ)
  | [] => []
  | none :: slots => packetsFrom (pn + 1) slots
  | some p :: slots => (pn, p) :: packetsFrom (pn + 1) slots

/-- `Packets`: what the iteration goes through. -/
def iterate (h : SentPacketHistory φ) : List (NumberedPacket φ) :=
  packetsFrom h.firstPacketNumber h.packets

def hasOutstandingPackets (h : SentPacketHistory φ) : Bool := decide (h.numOutstanding > 0)

def hasOutstandingPathProbes (h : SentPacketHistory φ) : Bool := !h.pathProbePackets.isEmpty

def firstOutstanding (h : SentPacketHistory φ) : Option (NumberedPacket φ) :=
  if h.hasOutstandingPackets then h.iterate.find? fun e => e.2.outstanding else none

def getIndex (h : SentPacketHistory φ) (p : PacketNumber) : Option Nat :=
  if h.packets.isEmpty then none
  else if p < h.firstPacketNumber then none
  else if (p - h.firstPacketNumber).toNat > h.packets.length - 1 then none
  else some (p - h.firstPacketNumber).toNat

/-- Delete all empty places at the beginning of the slice. -/
def cleanupStart (h : SentPacketHistory φ) : SentPacketHistory φ :=
  let i := (h.packets.takeWhile Option.isNone).length
  if i < h.packets.length then
    { h with packets := h.packets.drop i, firstPacketNumber := h.firstPacketNumber + i }
  else { h with packets := [], firstPacketNumber := InvalidPacketNumber }

/-- Take the packet out of its place. -/
def clearSlot (h : SentPacketHistory φ) (idx : Nat) :
    Except HandlerPanic (SentPacketHistory φ) :=
  match h.packets[idx]? with
  | some (some p) =>
    let numOutstanding := if p.outstanding then h.numOutstanding - 1 else h.numOutstanding
    if p.outstanding ∧ numOutstanding < 0 then .error .negativeNumberOfOutstandingPackets
    else .ok { h with packets := h.packets.set idx none, numOutstanding := numOutstanding }
  | _ => .error .nilDereference

/-- `Remove`; no result when the packet is not found. -/
def remove (h : SentPacketHistory φ) (pn : PacketNumber) :
    Except HandlerPanic (Option (SentPacketHistory φ)) :=
  match h.getIndex pn with
  | none => .ok none
  | some idx => do
    let h ← h.clearSlot idx
    let h := if (h.packets.take idx).any Option.isSome then h else h.cleanupStart
    if h.packets.head?.any Option.isNone then .error .cleanupFailed
    else return some h

def declareLost (h : SentPacketHistory φ) (pn : PacketNumber) :
    Except HandlerPanic (SentPacketHistory φ) :=
  match h.getIndex pn with
  | none => .ok h
  | some idx => do
    let h ← h.clearSlot idx
    return if idx = 0 then h.cleanupStart else h

/-- `RemovePathProbe`: the packet, and the history without it. -/
def removePathProbe (h : SentPacketHistory φ) (pn : PacketNumber) :
    Option (Packet φ) × SentPacketHistory φ :=
  ((h.pathProbePackets.find? fun e => e.1 = pn).map Prod.snd,
    { h with pathProbePackets := h.pathProbePackets.eraseP fun e => e.1 = pn })

def difference (h : SentPacketHistory φ) (a b : PacketNumber) : PacketNumber :=
  match h.skippedPackets.head?, h.skippedPackets.getLast? with
  | some first, some last =>
    if a < first ∨ b > last then a - b
    else a - b - (h.skippedPackets.filter fun p => p > b ∧ p < a).length
  | _, _ => a - b

end SentPacketHistory

end MoqQuic.Quic
