import MoqQuic.Congestion.Bbrv3

/-!
# MoqQuic.Congestion.Bbrv1

The BBRv1 congestion controller, `internal/congestion/bbrv1.go`.

As for BBRv3, floating-point numbers are rationals, a conversion to an integer truncates, and
the readings of the clock are arguments. Byte counts are integers: the source subtracts
without a check.
-/

namespace MoqQuic

/-- A conversion to an integer, which truncates towards zero. -/
def truncateInt (q : ℚ) : Int := if 0 ≤ q then ⌊q⌋ else ⌈q⌉

inductive Bbrv1State where
  | startup
  | drain
  | probeBW
  | probeRTT
  deriving DecidableEq, Repr

/-- `ackInfo`. -/
structure Bbrv1AckInfo where
  ackedBytes : Int
  recordTime : Duration
  deriving DecidableEq, Repr

/-- The size of the sliding window of the bandwidth filter. -/
def bwWin : Nat := 16

def minBdp : Int := 32

def probeBWCycleGain : List ℚ := [5 / 4, 3 / 4, 1, 1, 1, 1, 1, 1]

structure BBRv1Sender where
  state : Bbrv1State := .startup
  round : Nat := 0
  roundStartTime : Time
  startupLastBwGrow25Round : Nat := 0
  startupLastBw : Int := 0
  pacingGain : ℚ := 289 / 100
  cwndGain : ℚ := 289 / 100
  sentTimes : Nat → Option Time := fun _ => none
  lastNewMinRTT : Duration := 10 * second
  lastNewMinRTTTime : Time
  lastProbeRTTStart : Time := 0
  maxBandwidth : Int := 0
  delivered : Int := 0
  ackinfo : List Bbrv1AckInfo := []
  latelybandwidth : List Int := List.replicate bwWin 0
  nextSendTime : Time := 0
  maxDatagramSize : Int
  inRecovery : Bool := false

namespace BBRv1Sender

def minMaxbandwidth (b : BBRv1Sender) : Int :=
  truncateInt ((minBdp * b.maxDatagramSize : Int) * (1000000000 / (b.lastNewMinRTT : ℚ)))

/-- `NewBBRv1Sender`, with the two readings of the clock. -/
def newBBRv1Sender (initialMaxDatagramSize : Int) (now now' : Time) : BBRv1Sender :=
  let ret : BBRv1Sender :=
    { maxDatagramSize := initialMaxDatagramSize, roundStartTime := now, lastNewMinRTTTime := now' }
  { ret with maxBandwidth := ret.minMaxbandwidth }

/-- `bdp`, in bytes. -/
def bdp (b : BBRv1Sender) : ℚ :=
  max (b.maxBandwidth * seconds b.lastNewMinRTT) (minBdp * b.maxDatagramSize : Int)

def cwnd (b : BBRv1Sender) : Int :=
  if b.state = .probeRTT then 4 * b.maxDatagramSize else truncateInt (b.bdp * b.cwndGain)

def timeUntilSend (b : BBRv1Sender) : Time := b.nextSendTime

/-- `OnPacketSent`. The source does not read the bytes in flight and the retransmittable
flag. -/
def onPacketSent (b : BBRv1Sender) (sentTime : Time) (packetNumber : Nat) (bytes : Int) :
    BBRv1Sender :=
  { b with
    sentTimes := Function.update b.sentTimes packetNumber (some sentTime)
    nextSendTime := sentTime + truncateInt (bytes * 1000000000 / (b.pacingGain * b.maxBandwidth)) }

def canSend (b : BBRv1Sender) (bytesInFlight : Int) : Bool := bytesInFlight < b.cwnd

def entryProbeBW (b : BBRv1Sender) : BBRv1Sender :=
  { b with
    state := .probeBW
    pacingGain := probeBWCycleGain.getD (b.round % 8) 0
    cwndGain := 2 }

def mayExitProbeRTT (b : BBRv1Sender) (time : Time) : BBRv1Sender :=
  if b.state = .probeRTT ∧ time - b.lastProbeRTTStart ≥ 200 * millisecond then b.entryProbeBW
  else b

def updateMaxbandwidthFilter (b : BBRv1Sender) : BBRv1Sender :=
  { b with maxBandwidth := b.latelybandwidth.foldl max b.minMaxbandwidth }

def exitRecover (b : BBRv1Sender) : BBRv1Sender :=
  let b := { b with inRecovery := false }
  match b.state with
  | .startup => { b with pacingGain := 289 / 100 }
  | .drain => { b with pacingGain := 345 / 1000 }
  | .probeRTT => { b with pacingGain := 1 }
  | .probeBW => b

/-- The loop of `update_lastbandwidth_filter`: the index after the last entry that has expired,
and the bytes of all entries that have; `i` is the index of the first entry. -/
def expired (eventTime : Time) (lastNewMinRTT : Duration) :
    Nat → List Bbrv1AckInfo → Nat × Int → Nat × Int
  | _, [], acc => acc
  | i, info :: infos, (keepStartIndex, expireSum) =>
    expired eventTime lastNewMinRTT (i + 1) infos
      (if eventTime - info.recordTime > lastNewMinRTT then (i + 1, expireSum + info.ackedBytes)
        else (keepStartIndex, expireSum))

/-- `update_lastbandwidth_filter`: the delivery rate, in bytes per second. -/
def updateLastbandwidthFilter (b : BBRv1Sender) (eventTime : Time) : Int × BBRv1Sender :=
  let (keepStartIndex, expireSum) := expired eventTime b.lastNewMinRTT 0 b.ackinfo (0, 0)
  let b := { b with
    ackinfo := b.ackinfo.drop keepStartIndex
    delivered := b.delivered - expireSum }
  (truncateInt (b.delivered / seconds b.lastNewMinRTT), b)

def hasPacingBudget (b : BBRv1Sender) (now : Time) : Bool × BBRv1Sender :=
  let b := b.mayExitProbeRTT now
  if b.state = .probeRTT then (true, b)
  else
    let (deliveryRate, b) := b.updateLastbandwidthFilter now
    (decide ((deliveryRate : ℚ) < b.maxBandwidth * b.pacingGain), b)

/-- The RTT that `OnPacketAcked` computes; a packet that is not found has been sent at zero. -/
def rtt (b : BBRv1Sender) (number : Nat) (eventTime : Time) : Duration :=
  eventTime - (b.sentTimes number).getD 0

/-- The first part of `OnPacketAcked`, up to the return in PROBE_RTT. -/
def recordAck (b : BBRv1Sender) (number : Nat) (ackedBytes : Int) (eventTime : Time) :
    BBRv1Sender :=
  let rtt := b.rtt number eventTime
  let b := { b with sentTimes := Function.update b.sentTimes number none }
  let b := b.mayExitProbeRTT eventTime
  let b := if rtt < b.lastNewMinRTT ∧ rtt > 0 then
    { b with lastNewMinRTT := rtt, lastNewMinRTTTime := eventTime } else b
  { b with
    delivered := b.delivered + ackedBytes
    ackinfo := b.ackinfo ++ [⟨ackedBytes, eventTime⟩] }

/-- The bandwidth has grown by a quarter since it was last noted. The quotient is infinite while
nothing has been noted. -/
def startupGrown (b : BBRv1Sender) : Bool :=
  b.state = .startup ∧ b.maxBandwidth > b.startupLastBw ∧
    (b.startupLastBw = 0 ∨ ((b.maxBandwidth - b.startupLastBw : Int) : ℚ) / b.startupLastBw ≥ 1 / 4)

def endRound (b : BBRv1Sender) (deliveryRate : Int) (eventTime : Time) : BBRv1Sender :=
  let b := if b.inRecovery then b.exitRecover else b
  let b := { b with
    latelybandwidth := b.latelybandwidth.set (b.round % bwWin) deliveryRate
    round := b.round + 1 }
  let b := if b.state = .probeBW then
    { b with pacingGain := probeBWCycleGain.getD (b.round % 8) 0 } else b
  let b := { b with roundStartTime := eventTime }.updateMaxbandwidthFilter
  let b := if b.startupGrown then
    { b with startupLastBw := b.maxBandwidth, startupLastBwGrow25Round := b.round } else b
  if b.state = .startup ∧ (b.round : Int) - b.startupLastBwGrow25Round ≥ 3 then
    { b with state := .drain, pacingGain := 345 / 1000, cwndGain := 1 }
  else b

/-- The end of `OnPacketAcked`. -/
def updateStateOnAck (b : BBRv1Sender) (deliveryRate priorInFlight : Int) (eventTime : Time) :
    BBRv1Sender :=
  let b := if b.state = .drain ∧ priorInFlight < truncateInt b.bdp then b.entryProbeBW else b
  let appLimited := priorInFlight < truncateInt b.bdp
  let b := if (deliveryRate > b.maxBandwidth ∨ (¬ appLimited ∧ deliveryRate > 0)) ∧
      b.state ≠ .drain ∧ b.inRecovery = false then
    { b with maxBandwidth := max deliveryRate b.minMaxbandwidth } else b
  if eventTime - b.lastNewMinRTTTime ≥ 10 * second ∧
      eventTime - b.lastProbeRTTStart ≥ 10 * second then
    { b with
      state := .probeRTT
      pacingGain := 1
      cwndGain := 1
      lastNewMinRTT := 10 * second
      lastProbeRTTStart := eventTime }
  else b

def onPacketAcked (b : BBRv1Sender) (number : Nat) (ackedBytes priorInFlight : Int)
    (eventTime : Time) : BBRv1Sender :=
  let b := b.recordAck number ackedBytes eventTime
  if b.state = .probeRTT then b
  else
    let (deliveryRate, b) := b.updateLastbandwidthFilter eventTime
    let b := if eventTime - b.roundStartTime ≥ b.lastNewMinRTT then
      b.endRound deliveryRate eventTime else b
    b.updateStateOnAck deliveryRate priorInFlight eventTime

/-- `OnCongestionEvent` does nothing. -/
def onCongestionEvent (b : BBRv1Sender) : BBRv1Sender := b

/-- `OnRetransmissionTimeout` rebuilds the sender but keeps what it knows about the RTT. -/
def onRetransmissionTimeout (b : BBRv1Sender) (packetsRetransmitted : Bool) (now now' : Time) :
    BBRv1Sender :=
  if packetsRetransmitted then
    { newBBRv1Sender b.maxDatagramSize now now' with
      lastNewMinRTT := b.lastNewMinRTT
      lastNewMinRTTTime := b.lastNewMinRTTTime
      lastProbeRTTStart := b.lastProbeRTTStart }
  else b

def setMaxDatagramSize (b : BBRv1Sender) (maxDatagramSize : Int) : BBRv1Sender :=
  { b with maxDatagramSize := maxDatagramSize }

def getCongestionWindow (b : BBRv1Sender) : Int := b.cwnd

end BBRv1Sender

end MoqQuic
