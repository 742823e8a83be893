import MoqQuic.Lib.Bisect
import MoqQuic.Quic.SentPacketHistory

/-!
# MoqQuic.Quic.SentPacketHandler

The sender's side of loss recovery: `internal/ackhandler/sent_packet_handler.go`, over the
three packet number spaces.

* The calls on the congestion controller and on the handlers of frames are recorded in
  `calls`, in the order in which they are made.
* What the RTT statistics say at a call (`Timing`), what the ECN tracker reports and the
  random gaps of the packet number generator are arguments of the call.
* The alarm only decides when the connection calls again; it is left out, as are the tracker
  of spurious losses, the statistics and the logs.

A call returns the handler after it and perhaps an error; a panic has no handler after it.
-/

namespace MoqQuic.Quic

variable {φ : Type}

def packetThreshold : Int := 3

def pathProbePacketLossTimeout : Duration := second

def maxPTODuration : Duration := 60 * second

def timerGranularity : Duration := millisecond

inductive Perspective where
  | server
  | client
  deriving DecidableEq, Repr

inductive SendMode where
  | sendNone
  | sendAck
  | sendPTOInitial
  | sendPTOHandshake
  | sendPTOAppData
  | sendPacingLimited
  | sendAny
  deriving DecidableEq, Repr

/-! ## ACK frames -/

structure AckRange where
  smallest : PacketNumber
  largest : PacketNumber
  deriving DecidableEq, Repr

/-- The search of `AcksPacket`: the first range, from the highest down, that does not start above
the packet. -/
def searchRange (ranges : List AckRange) (p : PacketNumber) : Option AckRange :=
  ranges[Bisect.search ranges.length fun i => ranges[i]?.any fun r => decide (p ≥ r.smallest)]?

/-- An `AckFrame` whose ranges have passed `validateAckRanges`, from the highest down. -/
structure AckFrame where
  ackRanges : List AckRange
  nonempty : ackRanges ≠ []
  valid : ∀ r ∈ ackRanges, r.smallest ≤ r.largest
  descending : ackRanges.Pairwise fun r r' => r'.largest + 1 < r.smallest

namespace AckFrame

def largestAcked (ack : AckFrame) : PacketNumber := (ack.ackRanges.head ack.nonempty).largest

def lowestAcked (ack : AckFrame) : PacketNumber := (ack.ackRanges.getLast ack.nonempty).smallest

def hasMissingRanges (ack : AckFrame) : Bool := decide (ack.ackRanges.length > 1)

def acksPacket (ack : AckFrame) (p : PacketNumber) : Bool :=
  if p < ack.lowestAcked ∨ p > ack.largestAcked then false
  -- there is such a range, since the packet is not below the lowest one
  else (searchRange ack.ackRanges p).any fun r => decide (p ≤ r.largest)

end AckFrame

/-! ## the handler -/

/-- `packetNumberGenerator`: the sequential one skips no number. -/
structure PacketNumberGenerator where
  next : PacketNumber
  nextToSkip : Option PacketNumber := none
  deriving DecidableEq, Repr

namespace PacketNumberGenerator

def peek (g : PacketNumberGenerator) : PacketNumber :=
  if g.nextToSkip = some g.next then g.next + 1 else g.next

/-- `Pop`: whether a number was skipped, and the number; `draw` is the random distance to
the next number to skip. -/
def pop (g : PacketNumberGenerator) (draw : Nat) : Bool × PacketNumber × PacketNumberGenerator :=
  if g.nextToSkip = some g.next then
    (true, g.next + 1, { next := g.next + 2, nextToSkip := some (g.next + 2 + 3 + draw) })
  else (false, g.next, { g with next := g.next + 1 })

end PacketNumberGenerator

structure PacketNumberSpace (φ : Type) where
  history : SentPacketHistory φ := {}
  pns : PacketNumberGenerator
  lossTime : Time := 0
  lastAckElicitingPacketTime : Time := 0
  largestAcked : PacketNumber := InvalidPacketNumber
  largestSent : PacketNumber := InvalidPacketNumber
  deriving DecidableEq, Repr

/-- `newPacketNumberSpace`; numbers are skipped for application data only. -/
def newPacketNumberSpace (initialPN : PacketNumber) (skip : Option Nat) : PacketNumberSpace φ where
  pns := { next := initialPN, nextToSkip := skip.map fun draw => initialPN + 3 + draw }

/-- The calls that the handler makes. -/
inductive Call (φ : Type) where
  | onPacketSent (sentTime : Time) (bytesInFlight : Int) (pn : PacketNumber) (bytes : Nat)
      (isRetransmittable : Bool)
  /-- the call for a packet; its number and its length are the arguments -/
  | onPacketAcked (p : NumberedPacket φ) (priorInFlight : Int) (eventTime : Time)
  | onCongestionEvent (pn : PacketNumber) (lostBytes : Nat) (priorInFlight : Int)
  | maybeExitSlowStart
  | onRetransmissionTimeout
  | onAcked (frame : φ)
  | onLost (frame : φ)
  | ignorePacketsBelow (pn : PacketNumber)
  deriving DecidableEq, Repr

inductive HandlerError where
  | ackForUnsentPacket
  | ackForSkippedPacket (pn : PacketNumber)
  | ackedPacketsNotEmpty
  | wouldHaveAckedWrongPacket (pn : PacketNumber)
  | packetNotFound (pn : PacketNumber)
  | ptoWithoutPackets
  | ptoInUnexpectedLevel
  deriving DecidableEq, Repr

namespace HandlerError

def message : HandlerError → String
  | ackForUnsentPacket => "received ACK for an unsent packet"
  | ackForSkippedPacket pn => s!"received an ACK for skipped packet number: {pn} (1-RTT)"
  | ackedPacketsNotEmpty => "ackhandler BUG: ackedPackets slice not empty"
  | wouldHaveAckedWrongPacket pn => s!"BUG: ackhandler would have acked wrong packet {pn}"
  | packetNotFound pn => s!"packet {pn} not found in sent packet history"
  | ptoWithoutPackets => "sentPacketHandler BUG: PTO fired, but bytes_in_flight is 0 and " ++
      "Initial and Handshake already dropped"
  | ptoInUnexpectedLevel => "PTO timer in unexpected encryption level: 0-RTT"

end HandlerError

/-- What the RTT statistics give at a call; the PTO is without or with the maximal ACK
delay. -/
structure Timing where
  latestRTT : Duration
  smoothedRTT : Duration
  pto : Duration
  ptoWithAckDelay : Duration
  deriving DecidableEq, Repr

/-- The time after which a packet is deemed lost. -/
def Timing.lossDelay (timing : Timing) : Duration :=
  max ((9 * max timing.latestRTT timing.smoothedRTT).tdiv 8) timerGranularity

structure SentPacketHandler (φ : Type) where
  initialPackets : Option (PacketNumberSpace φ)
  handshakePackets : Option (PacketNumberSpace φ)
  appDataPackets : PacketNumberSpace φ
  peerCompletedAddressValidation : Bool
  bytesReceived : Nat := 0
  bytesSent : Nat := 0
  peerAddressValidated : Bool
  handshakeConfirmed : Bool := false
  ackedPackets : List (NumberedPacket φ) := []
  bytesInFlight : Int := 0
  ptoCount : Nat := 0
  ptoMode : SendMode := .sendNone
  numProbesToSend : Int := 0
  perspective : Perspective
  /-- the congestion controller is the default one -/
  usesCubic : Bool
  calls : List (Call φ) := []
  deriving DecidableEq, Repr

def newSentPacketHandler (initialPN : PacketNumber) (clientAddressValidated : Bool)
    (perspective : Perspective) (usesCubic : Bool) (draw : Nat) : SentPacketHandler φ where
  initialPackets := some (newPacketNumberSpace initialPN none)
  handshakePackets := some (newPacketNumberSpace 0 none)
  appDataPackets := newPacketNumberSpace 0 (some draw)
  peerCompletedAddressValidation := perspective == .server
  peerAddressValidated := perspective == .client || clientAddressValidated
  perspective := perspective
  usesCubic := usesCubic

/-- Follow a pointer. -/
def derefPointer {α : Type} : Option α → Except HandlerPanic α
  | none => .error .nilDereference
  | some a => .ok a

namespace SentPacketHandler

def getPacketNumberSpace (h : SentPacketHandler φ) : EncryptionLevel → Option (PacketNumberSpace φ)
  | .initial => h.initialPackets
  | .handshake => h.handshakePackets
  | .zeroRTT | .oneRTT => some h.appDataPackets

/-- Change the packet number space. -/
def setPacketNumberSpace (h : SentPacketHandler φ) (encLevel : EncryptionLevel)
    (space : PacketNumberSpace φ) : SentPacketHandler φ :=
  match encLevel with
  | .initial => { h with initialPackets := some space }
  | .handshake => { h with handshakePackets := some space }
  | .zeroRTT | .oneRTT => { h with appDataPackets := space }

/-- Change the history of the packet number space. -/
def setHistory (h : SentPacketHandler φ) (encLevel : EncryptionLevel) (space : PacketNumberSpace φ)
    (history : SentPacketHistory φ) : SentPacketHandler φ :=
  h.setPacketNumberSpace encLevel { space with history := history }

def call (h : SentPacketHandler φ) (c : Call φ) : SentPacketHandler φ :=
  { h with calls := h.calls ++ [c] }

def callHandlers (h : SentPacketHandler φ) (mk : φ → Call φ) (frames : List (SentFrame φ)) :
    SentPacketHandler φ :=
  { h with calls := h.calls ++ (frames.filter fun f => f.hasHandler).map fun f => mk f.frame }

def removeFromBytesInFlight (h : SentPacketHandler φ) (p : Packet φ) :
    Except HandlerPanic (SentPacketHandler φ) :=
  if p.includedInBytesInFlight then
    if p.length > h.bytesInFlight then .error .negativeBytesInFlight
    else .ok { h with bytesInFlight := h.bytesInFlight - p.length }
  else .ok h

def queueFramesForRetransmission (h : SentPacketHandler φ) (p : Packet φ) :
    Except HandlerPanic (SentPacketHandler φ) :=
  if p.frames.isEmpty && p.streamFrames.isEmpty then .error .noFrames
  else .ok ((h.callHandlers .onLost p.frames).callHandlers .onLost p.streamFrames)

/-- A client learns that the server does not await address validation any longer. -/
def completeAddressValidation (h : SentPacketHandler φ) (condition : Bool) :
    SentPacketHandler φ :=
  if h.perspective = .client ∧ condition = true then
    { h with peerCompletedAddressValidation := true }
  else h

/-! ## receiving -/

def receivedBytes (h : SentPacketHandler φ) (n : Nat) : SentPacketHandler φ :=
  { h with bytesReceived := h.bytesReceived + n }

def receivedPacket (h : SentPacketHandler φ) (l : EncryptionLevel) : SentPacketHandler φ :=
  if h.perspective = .server ∧ l = .handshake then { h with peerAddressValidated := true } else h

/-! ## sending -/

/-- The arguments of `SentPacket`. -/
structure SentArgs (φ : Type) where
  t : Time
  pn : PacketNumber
  largestAcked : PacketNumber
  streamFrames : List (SentFrame φ)
  frames : List (SentFrame φ)
  encLevel : EncryptionLevel
  size : Nat
  isPathMTUProbePacket : Bool
  isPathProbePacket : Bool
  deriving DecidableEq, Repr

/-- The packet that `SentPacket` fills in. -/
def SentArgs.packet (a : SentArgs φ) : Packet φ where
  sendTime := a.t
  streamFrames := a.streamFrames
  frames := a.frames
  largestAcked := a.largestAcked
  length := a.size
  encryptionLevel := some a.encLevel
  isPathMTUProbePacket := a.isPathMTUProbePacket
  isPathProbePacket := a.isPathProbePacket

def sentPacket (h : SentPacketHandler φ) (a : SentArgs φ) :
    Except HandlerPanic (SentPacketHandler φ) := do
  let h := { h with bytesSent := h.bytesSent + a.size }
  let space ← derefPointer (h.getPacketNumberSpace a.encLevel)
  let space := { space with largestSent := a.pn }
  let p := a.packet
  if a.isPathProbePacket then
    let history ← space.history.sentPathProbePacket a.pn p
    return h.setHistory a.encLevel space history
  else if p.isAckEliciting then
    let space := { space with lastAckElicitingPacketTime := a.t }
    let h := { h with
      bytesInFlight := h.bytesInFlight + a.size
      numProbesToSend := if h.numProbesToSend > 0 then h.numProbesToSend - 1
        else h.numProbesToSend }
    let p := { p with includedInBytesInFlight := true }
    let h := h.call (.onPacketSent a.t h.bytesInFlight a.pn a.size true)
    let history ← space.history.sentPacket a.pn p
    return h.setHistory a.encLevel space history
  else
    let h := h.call (.onPacketSent a.t h.bytesInFlight a.pn a.size false)
    let history ← space.history.sentPacket a.pn p
    return h.setHistory a.encLevel space history

def popPacketNumber (h : SentPacketHandler φ) (encLevel : EncryptionLevel) (draw : Nat) :
    Except HandlerPanic (PacketNumber × SentPacketHandler φ) := do
  let space ← derefPointer (h.getPacketNumberSpace encLevel)
  let (skipped, pn, pns) := space.pns.pop draw
  let space := { space with pns := pns }
  if skipped then
    let history ← space.history.skippedPacket (pn - 1)
    return (pn, h.setHistory encLevel space history)
  else return (pn, h.setPacketNumberSpace encLevel space)

/-! ## detecting losses -/

/-- A packet of the space is declared lost. -/
def losePacket (encLevel : EncryptionLevel) (priorInFlight : Int) (h : SentPacketHandler φ)
    (space : PacketNumberSpace φ) (pn : PacketNumber) (p : Packet φ) :
    Except HandlerPanic (SentPacketHandler φ) := do
  let history ← space.history.declareLost pn
  let h := h.setHistory encLevel space history
  if !p.isPathProbePacket && p.isAckEliciting then
    let h ← h.removeFromBytesInFlight p
    let h ← h.queueFramesForRetransmission p
    return if p.isPathMTUProbePacket then h
      else h.call (.onCongestionEvent pn p.length priorInFlight)
  else return h

/-- One round of the loop of `detectLostPackets`. -/
def checkLost (now : Time) (lossDelay : Duration) (encLevel : EncryptionLevel)
    (priorInFlight : Int) (h : SentPacketHandler φ) (e : NumberedPacket φ) :
    Except HandlerPanic (SentPacketHandler φ) := do
  let space ← derefPointer (h.getPacketNumberSpace encLevel)
  let (pn, p) := e
  if p.sendTime ≤ now - lossDelay ∨
      space.history.difference space.largestAcked pn ≥ packetThreshold then
    losePacket encLevel priorInFlight h space pn p
  else if space.lossTime = 0 then
    return h.setPacketNumberSpace encLevel { space with lossTime := p.sendTime + lossDelay }
  else return h

def detectLostPackets (h : SentPacketHandler φ) (now : Time) (lossDelay : Duration)
    (encLevel : EncryptionLevel) : Except HandlerPanic (SentPacketHandler φ) := do
  let space ← derefPointer (h.getPacketNumberSpace encLevel)
  let h := h.setPacketNumberSpace encLevel { space with lossTime := 0 }
  -- the loop stops at the first packet above the largest acknowledged one
  (space.history.iterate.takeWhile fun e => decide (e.1 ≤ space.largestAcked)).foldlM
    (checkLost now lossDelay encLevel h.bytesInFlight) h

def losePathProbe (h : SentPacketHandler φ) (e : NumberedPacket φ) :
    Except HandlerPanic (SentPacketHandler φ) :=
  -- the source calls the handler without a check
  if e.2.frames.all fun f => f.hasHandler then
    .ok ((h.callHandlers .onLost e.2.frames).setHistory .oneRTT h.appDataPackets
      (h.appDataPackets.history.removePathProbe e.1).2)
  else .error .nilDereference

def detectLostPathProbes (h : SentPacketHandler φ) (now : Time) :
    Except HandlerPanic (SentPacketHandler φ) :=
  (h.appDataPackets.history.pathProbePackets.filter fun e =>
    decide (e.2.sendTime ≤ now - pathProbePacketLossTimeout)).foldlM losePathProbe h

/-- `detectLostPathProbes` behind a condition. -/
def detectLostPathProbesIf (h : SentPacketHandler φ) (condition : Bool) (now : Time) :
    Except HandlerPanic (SentPacketHandler φ) :=
  if condition then h.detectLostPathProbes now else .ok h

/-! ## receiving an ACK -/

/-- The walk over the ranges, from the lowest up: up to the first one that does not lie below
the packet number, and to the last one at most. -/
def advanceRange (pn : PacketNumber) : List AckRange → List AckRange
  | r :: r' :: rest => if pn > r.largest then advanceRange pn (r' :: rest) else r :: r' :: rest
  | rs => rs

/-- The variables of the loop in `detectAndRemoveAckedPackets`. -/
structure Collecting (φ : Type) where
  /-- the ranges from `ackRangeIndex` on -/
  ranges : List AckRange
  history : SentPacketHistory φ
  ackedPackets : List (NumberedPacket φ) := []
  hasAckEliciting : Bool := false
  error : Option HandlerError := none

/-- The packet is acknowledged. -/
def Collecting.add (c : Collecting φ) (e : NumberedPacket φ) : Collecting φ :=
  if e.2.isPathProbePacket then
    match c.history.removePathProbe e.1 with
    | (some probe, history) =>
      { c with history := history, ackedPackets := c.ackedPackets ++ [(e.1, probe)] }
    | (none, history) => { c with history := history }
  else
    { c with
      hasAckEliciting := c.hasAckEliciting || e.2.isAckEliciting
      ackedPackets := c.ackedPackets ++ [e] }

/-- One round of the loop. -/
def collectAcked (ack : AckFrame) (c : Collecting φ) (e : NumberedPacket φ) : Collecting φ :=
  if c.error.isSome then c
  else if ack.hasMissingRanges then
    match advanceRange e.1 c.ranges with
    | [] => c
    | r :: rest =>
      let c := { c with ranges := r :: rest }
      if e.1 < r.smallest then c
      else if e.1 > r.largest then { c with error := some (.wouldHaveAckedWrongPacket e.1) }
      else c.add e
  else c.add e

/-- What is told about an acknowledged packet: to the tracker of received packets, and to the
handlers of its frames. -/
def tellAcked (h : SentPacketHandler φ) (encLevel : EncryptionLevel) (p : Packet φ) :
    SentPacketHandler φ :=
  let h := if p.largestAcked ≠ InvalidPacketNumber ∧ encLevel = .oneRTT then
    h.call (.ignorePacketsBelow (p.largestAcked + 1)) else h
  (h.callHandlers .onAcked p.frames).callHandlers .onAcked p.streamFrames

/-- One round of the second loop: the packet leaves the history. -/
def removeAcked (encLevel : EncryptionLevel) :
    SentPacketHandler φ × Option HandlerError → NumberedPacket φ →
      Except HandlerPanic (SentPacketHandler φ × Option HandlerError)
  | (h, some err), _ => .ok (h, some err)
  | (h, none), (pn, p) => do
    let h := h.tellAcked encLevel p
    let space ← derefPointer (h.getPacketNumberSpace encLevel)
    match ← space.history.remove pn with
    | none => return (h, some (.packetNotFound pn))
    | some history => return (h.setHistory encLevel space history, none)

/-- `detectAndRemoveAckedPackets`: the packets are left in `ackedPackets`; the result tells
whether one of them is ack-eliciting. -/
def detectAndRemoveAckedPackets (h : SentPacketHandler φ) (ack : AckFrame)
    (encLevel : EncryptionLevel) :
    Except HandlerPanic (SentPacketHandler φ × Bool × Option HandlerError) := do
  if !h.ackedPackets.isEmpty then return (h, false, some .ackedPacketsNotEmpty)
  else
    let space ← derefPointer (h.getPacketNumberSpace encLevel)
    match space.history.skippedPackets.find? fun p => encLevel == .oneRTT && ack.acksPacket p with
    | some p => return (h, false, some (.ackForSkippedPacket p))
    | none =>
      -- packets below the lowest acknowledged one are passed over, and the loop stops at
      -- the first one above the largest
      let candidates := (space.history.iterate.takeWhile fun e =>
        decide (e.1 ≤ ack.largestAcked)).filter fun e => decide (ack.lowestAcked ≤ e.1)
      let c := candidates.foldl (collectAcked ack)
        { ranges := ack.ackRanges.reverse, history := space.history }
      let h := { h.setHistory encLevel space c.history with ackedPackets := c.ackedPackets }
      if c.error.isSome then return (h, false, c.error)
      else
        let (h, err) ← c.ackedPackets.foldlM (removeAcked encLevel) (h, none)
        return (h, c.hasAckEliciting, err)

/-- One round of the loop over the acknowledged packets in `ReceivedAck`. -/
def finishAcked (priorInFlight : Int) (rcvTime : Time) (h : SentPacketHandler φ)
    (e : NumberedPacket φ) : Except HandlerPanic (SentPacketHandler φ) :=
  let h := if e.2.includedInBytesInFlight then
    h.call (.onPacketAcked e priorInFlight rcvTime) else h
  h.removeFromBytesInFlight e.2

/-- What the congestion controller is told before losses are detected: that the largest
acknowledged packet is new, and that the ECN tracker reports congestion. -/
def tellCongestion (h : SentPacketHandler φ) (ack : AckFrame) (encLevel : EncryptionLevel)
    (largestAcked : PacketNumber) (congested hasAckEliciting : Bool) (priorInFlight : Int) :
    SentPacketHandler φ :=
  let largestIsNew := (h.ackedPackets.getLast?.any fun e =>
    e.1 == ack.largestAcked && !e.2.isPathProbePacket) && hasAckEliciting
  let h := if largestIsNew then h.call .maybeExitSlowStart else h
  if encLevel = .oneRTT ∧ congested = true ∧ ack.largestAcked > largestAcked then
    h.call (.onCongestionEvent ack.largestAcked 0 priorInFlight)
  else h

/-- The end of `ReceivedAck`, when packets were acknowledged. -/
def processAcked (h : SentPacketHandler φ) (ack : AckFrame) (encLevel : EncryptionLevel)
    (rcvTime : Time) (lossDelay : Duration) (congested hasAckEliciting : Bool)
    (priorInFlight : Int) : Except HandlerPanic (SentPacketHandler φ) := do
  let space ← derefPointer (h.getPacketNumberSpace encLevel)
  let h := h.tellCongestion ack encLevel space.largestAcked congested hasAckEliciting priorInFlight
  let h := h.setPacketNumberSpace encLevel
    { space with largestAcked := max space.largestAcked ack.largestAcked }
  let h ← h.detectLostPackets rcvTime lossDelay encLevel
  let h ← h.detectLostPathProbesIf (encLevel == .oneRTT) rcvTime
  let h ← h.ackedPackets.foldlM (finishAcked priorInFlight rcvTime) h
  return { h with
    ackedPackets := []
    ptoCount := if h.peerCompletedAddressValidation then 0 else h.ptoCount
    numProbesToSend := 0 }

def receivedAck (h : SentPacketHandler φ) (ack : AckFrame) (encLevel : EncryptionLevel)
    (rcvTime : Time) (timing : Timing) (congested : Bool) :
    Except HandlerPanic (SentPacketHandler φ × Option HandlerError) := do
  let space ← derefPointer (h.getPacketNumberSpace encLevel)
  if ack.largestAcked > space.largestSent then return (h, some .ackForUnsentPacket)
  else
    let h := h.completeAddressValidation (encLevel == .handshake || encLevel == .oneRTT)
    let priorInFlight := h.bytesInFlight
    let (h, hasAckEliciting, err) ← h.detectAndRemoveAckedPackets ack encLevel
    if err.isSome || h.ackedPackets.isEmpty then return (h, err)
    else
      let h ← h.processAcked ack encLevel rcvTime timing.lossDelay congested hasAckEliciting
        priorInFlight
      return (h, none)

/-! ## timeouts and probes -/

def getLossTimeAndSpace (h : SentPacketHandler φ) : Time × EncryptionLevel :=
  -- the level of no space is never read, since the time is zero then
  let (lossTime, encLevel) := match h.initialPackets with
    | some space => (space.lossTime, EncryptionLevel.initial)
    | none => (0, .oneRTT)
  let (lossTime, encLevel) := match h.handshakePackets with
    | some space =>
      if lossTime = 0 ∨ space.lossTime ≠ 0 ∧ space.lossTime < lossTime then
        (space.lossTime, .handshake)
      else (lossTime, encLevel)
    | none => (lossTime, encLevel)
  let space := h.appDataPackets
  if lossTime = 0 ∨ space.lossTime ≠ 0 ∧ space.lossTime < lossTime then (space.lossTime, .oneRTT)
  else (lossTime, encLevel)

/-- The space has packets for which a PTO is armed. -/
def armsPTO (space : PacketNumberSpace φ) : Bool :=
  space.history.hasOutstandingPackets && decide (space.lastAckElicitingPacketTime ≠ 0)

def hasOutstandingCryptoPackets (h : SentPacketHandler φ) : Bool :=
  h.initialPackets.any (fun space => space.history.hasOutstandingPackets) ||
    h.handshakePackets.any fun space => space.history.hasOutstandingPackets

/-- `getScaledPTO`, on 64 bits. -/
def getScaledPTO (h : SentPacketHandler φ) (pto : Duration) : Duration :=
  let scaled := (pto * 2 ^ h.ptoCount).bmod (2 ^ 64)
  if scaled > maxPTODuration ∨ scaled ≤ 0 then maxPTODuration else scaled

/-- `getPTOTimeAndSpace`; no level when no PTO is armed. -/
def getPTOTimeAndSpace (h : SentPacketHandler φ) (now : Time) (timing : Timing) :
    Time × Option EncryptionLevel :=
  if !h.handshakeConfirmed && !h.hasOutstandingCryptoPackets then
    if h.peerCompletedAddressValidation then (0, none)
    else if h.initialPackets.isSome then (now + h.getScaledPTO timing.pto, some .initial)
    else (now + h.getScaledPTO timing.pto, some .handshake)
  else
    let (pto, encLevel) := match h.initialPackets with
      | some space =>
        if armsPTO space then
          (space.lastAckElicitingPacketTime + h.getScaledPTO timing.pto,
            some EncryptionLevel.initial)
        else (0, none)
      | none => (0, none)
    let (pto, encLevel) := match h.handshakePackets with
      | some space =>
        let t := space.lastAckElicitingPacketTime + h.getScaledPTO timing.pto
        if armsPTO space = true ∧ (pto = 0 ∨ t ≠ 0 ∧ t < pto) then (t, some .handshake)
        else (pto, encLevel)
      | none => (pto, encLevel)
    let t := h.appDataPackets.lastAckElicitingPacketTime + h.getScaledPTO timing.ptoWithAckDelay
    if (h.handshakeConfirmed && armsPTO h.appDataPackets) = true ∧ (pto = 0 ∨ t ≠ 0 ∧ t < pto) then
      (t, some .oneRTT)
    else (pto, encLevel)

/-- The PTO fires at the level. -/
def firePTO (h : SentPacketHandler φ) (encLevel : EncryptionLevel) (draw : Nat) :
    Except HandlerPanic (SentPacketHandler φ × Option HandlerError) := do
  let h := { h with ptoCount := h.ptoCount + 1, numProbesToSend := h.numProbesToSend + 2 }
  match encLevel with
  | .initial => return ({ h with ptoMode := .sendPTOInitial }, none)
  | .handshake => return ({ h with ptoMode := .sendPTOHandshake }, none)
  | .oneRTT =>
    -- skip a packet number in order to elicit an immediate ACK
    let (pn, h) ← h.popPacketNumber .oneRTT draw
    let history ← h.appDataPackets.history.skippedPacket pn
    let h := h.setHistory .oneRTT h.appDataPackets history
    return ({ h with ptoMode := .sendPTOAppData }, none)
  | .zeroRTT => return (h, some .ptoInUnexpectedLevel)

/-- The PTO branch of `OnLossDetectionTimeout`. -/
def onPTO (h : SentPacketHandler φ) (now : Time) (timing : Timing) (draw : Nat) :
    Except HandlerPanic (SentPacketHandler φ × Option HandlerError) := do
  let (ptoTime, encLevel) := h.getPTOTimeAndSpace now timing
  if ptoTime = 0 then return (h, none)
  else
    match encLevel with
    | none => .error .invalidPacketNumberSpace
    | some encLevel =>
      let space ← derefPointer (h.getPacketNumberSpace encLevel)
      if !space.history.hasOutstandingPackets && !space.history.hasOutstandingPathProbes &&
          !h.peerCompletedAddressValidation then return (h, none)
      else h.firePTO encLevel draw

/-- The branch of `OnLossDetectionTimeout` for a client that waits for the server to validate
its address. -/
def onAddressValidationPTO (h : SentPacketHandler φ) :
    SentPacketHandler φ × Option HandlerError :=
  let h := { h with ptoCount := h.ptoCount + 1, numProbesToSend := h.numProbesToSend + 1 }
  if h.initialPackets.isSome then ({ h with ptoMode := .sendPTOInitial }, none)
  else if h.handshakePackets.isSome then ({ h with ptoMode := .sendPTOHandshake }, none)
  else (h, some .ptoWithoutPackets)

def onLossDetectionTimeout (h : SentPacketHandler φ) (now : Time) (timing : Timing) (draw : Nat) :
    Except HandlerPanic (SentPacketHandler φ × Option HandlerError) := do
  let h ← h.detectLostPathProbesIf h.handshakeConfirmed now
  let (earliestLossTime, encLevel) := h.getLossTimeAndSpace
  if earliestLossTime ≠ 0 then
    let h ← h.detectLostPackets now timing.lossDelay encLevel
    return (h, none)
  else if h.bytesInFlight = 0 ∧ h.peerCompletedAddressValidation = false then
    return h.onAddressValidationPTO
  else h.onPTO now timing draw

/-- `QueueProbePacket`: whether a packet was queued. -/
def queueProbePacket (h : SentPacketHandler φ) (encLevel : EncryptionLevel) :
    Except HandlerPanic (SentPacketHandler φ × Bool) := do
  let space ← derefPointer (h.getPacketNumberSpace encLevel)
  match space.history.firstOutstanding with
  | none => return (h, false)
  | some (pn, p) =>
    let history ← space.history.declareLost pn
    let h := h.setHistory encLevel space history
    let h ← h.removeFromBytesInFlight p
    let h ← h.queueFramesForRetransmission p
    return (h, true)

/-! ## dropping, retry and migration -/

/-- One round of the loop over the 0-RTT packets in `DropPackets`; the error of `Remove` is
dropped. -/
def dropZeroRTT (h : SentPacketHandler φ) (e : NumberedPacket φ) :
    Except HandlerPanic (SentPacketHandler φ) := do
  let h ← h.removeFromBytesInFlight e.2
  match ← h.appDataPackets.history.remove e.1 with
  | none => return h
  | some history => return h.setHistory .zeroRTT h.appDataPackets history

/-- The end of `DropPackets`. -/
def resetPTO (h : SentPacketHandler φ) : SentPacketHandler φ :=
  { h with ptoCount := 0, numProbesToSend := 0, ptoMode := .sendNone }

def dropPackets (h : SentPacketHandler φ) (encLevel : EncryptionLevel) :
    Except HandlerPanic (SentPacketHandler φ) := do
  let h := h.completeAddressValidation (encLevel == .handshake)
  match encLevel with
  | .initial =>
    match h.initialPackets with
    | none => return h
    | some space =>
      let h ← space.history.iterate.foldlM (fun h e => h.removeFromBytesInFlight e.2) h
      return { h with initialPackets := none }.resetPTO
  | .handshake =>
    match h.handshakePackets with
    | none => return h
    | some space =>
      let h ← space.history.iterate.foldlM (fun h e => h.removeFromBytesInFlight e.2) h
      return { h with handshakeConfirmed := true, handshakePackets := none }.resetPTO
  | .zeroRTT =>
    let h ← (h.appDataPackets.history.iterate.takeWhile fun e =>
      decide (e.2.encryptionLevel = some .zeroRTT)).foldlM dropZeroRTT h
    return h.resetPTO
  | .oneRTT => .error .cannotDropKeys

/-- The frames of an ack-eliciting packet are queued again. -/
def requeue (h : SentPacketHandler φ) (e : NumberedPacket φ) :
    Except HandlerPanic (SentPacketHandler φ) :=
  if e.2.isAckEliciting then h.queueFramesForRetransmission e.2 else .ok h

def resetForRetry (h : SentPacketHandler φ) (draw : Nat) :
    Except HandlerPanic (SentPacketHandler φ) := do
  let h := { h with bytesInFlight := 0 }
  let initialPackets ← derefPointer h.initialPackets
  let h ← initialPackets.history.iterate.foldlM requeue h
  let h ← h.appDataPackets.history.iterate.foldlM requeue h
  return { h with
    initialPackets := some (newPacketNumberSpace initialPackets.pns.peek none)
    appDataPackets := newPacketNumberSpace h.appDataPackets.pns.peek (some draw)
    ptoCount := 0 }

/-- `RemovePathProbe` for each element of the slice that is being iterated: the slice of
length `len` lies in the array `slots`, and a removal moves what follows one place down. -/
def removeProbesInLoop : Nat → Nat → List (NumberedPacket φ) → Nat → List (NumberedPacket φ)
  | 0, _, slots, len => slots.take len
  | rounds + 1, i, slots, len =>
    match slots[i]? with
    | none => slots.take len
    | some (pn, _) =>
      match (slots.take len).findIdx? fun e => e.1 = pn with
      | none => removeProbesInLoop rounds (i + 1) slots len
      | some idx =>
        removeProbesInLoop rounds (i + 1)
          (slots.take idx ++ (slots.take len).drop (idx + 1) ++ slots.drop (len - 1))
          (len - 1)

/-- One round of the loop over the packets in `MigratedPath`. -/
def migratePacket (h : SentPacketHandler φ) (e : NumberedPacket φ) :
    Except HandlerPanic (SentPacketHandler φ) := do
  let history ← h.appDataPackets.history.declareLost e.1
  let h := h.setHistory .oneRTT h.appDataPackets history
  if e.2.isPathProbePacket then return h
  else
    let h ← h.removeFromBytesInFlight e.2
    h.requeue e

def migratedPath (h : SentPacketHandler φ) : Except HandlerPanic (SentPacketHandler φ) := do
  let h ← h.appDataPackets.history.iterate.foldlM migratePacket h
  let probes := h.appDataPackets.history.pathProbePackets
  let h := h.setHistory .oneRTT h.appDataPackets
    { h.appDataPackets.history with
      pathProbePackets := removeProbesInLoop probes.length 0 probes probes.length }
  return if h.usesCubic then h else h.call .onRetransmissionTimeout

/-! ## runs -/

/-- The calls that the connection makes. -/
inductive Op (φ : Type) where
  | receivedBytes (n : Nat)
  | receivedPacket (l : EncryptionLevel)
  | sentPacket (a : SentArgs φ)
  | popPacketNumber (encLevel : EncryptionLevel) (draw : Nat)
  | receivedAck (ack : AckFrame) (encLevel : EncryptionLevel) (rcvTime : Time) (timing : Timing)
      (congested : Bool)
  | onLossDetectionTimeout (now : Time) (timing : Timing) (draw : Nat)
  | queueProbePacket (encLevel : EncryptionLevel)
  | dropPackets (encLevel : EncryptionLevel)
  | resetForRetry (draw : Nat)
  | migratedPath

def step (h : SentPacketHandler φ) :
    Op φ → Except HandlerPanic (SentPacketHandler φ × Option HandlerError)
  | .receivedBytes n => .ok (h.receivedBytes n, none)
  | .receivedPacket l => .ok (h.receivedPacket l, none)
  | .sentPacket a => do return (← h.sentPacket a, none)
  | .popPacketNumber encLevel draw => do return ((← h.popPacketNumber encLevel draw).2, none)
  | .receivedAck ack encLevel rcvTime timing congested =>
    h.receivedAck ack encLevel rcvTime timing congested
  | .onLossDetectionTimeout now timing draw => h.onLossDetectionTimeout now timing draw
  | .queueProbePacket encLevel => do return ((← h.queueProbePacket encLevel).1, none)
  | .dropPackets encLevel => do return (← h.dropPackets encLevel, none)
  | .resetForRetry draw => do return (← h.resetForRetry draw, none)
  | .migratedPath => do return (← h.migratedPath, none)

end SentPacketHandler

end MoqQuic.Quic
