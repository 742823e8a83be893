import Mathlib.Data.Rat.Floor

/-!
# MoqQuic.Congestion.Bbrv3

The BBRv3 sender of `internal/congestion/bbrv3.go`, function by function.

Every method of `BBRv3Sender` is a function from the sender before the call to
the sender after it, paired with the value it returns where it returns one.
The methods that compute a window (`bdp`, `inflight`, `quantizationBudget`,
`probeRttCwnd`) also write fields, so they return the sender too and their
effect takes place only where the source evaluates them.

* times and durations are integers, in nanoseconds;
* byte counts and rates are naturals, with `^uint64(0)` as the constant
  `maxUint64`;
* gains and rates in `float64` are exact rationals, converted to `uint64` by
  truncation;
* the clock readings `monotime.Now()` inside a call are arguments of it.

The statistics (`stats`, the byte totals) only observe the sender and are left
out.
-/

namespace MoqQuic

/-- `monotime.Time`: nanoseconds since the start of the process. -/
abbrev Time := Int

/-- `time.Duration`, in nanoseconds. -/
abbrev Duration := Int

def millisecond : Duration := 1000000

def second : Duration := 1000000000

/-- `d.Seconds()`. -/
def seconds (d : Duration) : ℚ := d / 1000000000

/-- `uint64(x)` for a non-negative `float64`. -/
def truncate (q : ℚ) : Nat := q.floor.toNat

/-- `^uint64(0)`. -/
def maxUint64 : Nat := 2 ^ 64 - 1

/-! ## data model -/

inductive Bbrv3State where
  | startup
  | drain
  | probeBwDown
  | probeBwCruise
  | probeBwRefill
  | probeBwUp
  | probeRTT
deriving DecidableEq, Repr

inductive AckProbePhase where
  | init
  | stopping
  | refilling
  | starting
  | feedback
deriving DecidableEq, Repr

structure Bbrv3Config where
  minCwnd : Nat
  initialCwnd : Nat
  initialRtt : Duration
  maxDatagramSize : Nat
  fullBwCountThreshold : Nat
  fullBwGrowthRate : ℚ
  probeRttDuration : Duration
  probeRttInterval : Duration
  lossThreshold : ℚ
  fullLossCount : Nat
  beta : ℚ
  headroom : ℚ
deriving DecidableEq, Repr

def startupPacingGain : ℚ := 277 / 100
def pacingMarginPercent : ℚ := 1 / 100
def lossThresh : ℚ := 2 / 100
def fullLossCnt : Nat := 6
def betaFactor : ℚ := 7 / 10
def headroomFactor : ℚ := 85 / 100
def minPipeCwndInSmss : Nat := 4
def extraAckedFilterLen : Nat := 10
def probeRttDurationConst : Duration := 200 * millisecond
def probeRttIntervalConst : Duration := 5 * second
def fullBwCountThresholdConst : Nat := 3
def fullBwGrowthRateConst : ℚ := 1 / 4
def probeBwMaxRounds : Nat := 63
def sendQuantumThresholdPacing : Nat := 1200000 / 8
def defaultMaxDatagramSize : Nat := 1200
def defaultInitialCwnd : Nat := 10

structure RoundTripCounter where
  roundCount : Nat := 0
  isRoundStart : Bool := false
  nextRoundDelivered : Nat := 0
deriving DecidableEq, Repr

structure FullPipeEstimator where
  isFilledPipe : Bool := false
  fullBw : Nat := 0
  fullBwCount : Nat := 0
deriving DecidableEq, Repr

/-- `simpleMaxFilter`: the two entries of `bw`. -/
structure SimpleMaxFilter where
  bw0 : Nat := 0
  bw1 : Nat := 0
deriving DecidableEq, Repr

def SimpleMaxFilter.maxBw (f : SimpleMaxFilter) : Nat :=
  if f.bw0 > f.bw1 then f.bw0 else f.bw1

/-- `minMaxFilter`; `data` holds the entries of the map.  The sender creates one
and reads it, but never calls its `updateMax`. -/
structure MinMaxFilter where
  data : List (Nat × Nat) := []
  idx : Nat := 0
  window : Nat
  curMax : Nat := 0
deriving DecidableEq, Repr

namespace MinMaxFilter

/-- `get` also stores the maximum it returns. -/
def get (m : MinMaxFilter) : Nat × MinMaxFilter :=
  let maxVal := m.data.foldl (fun acc e => if e.2 > acc then e.2 else acc) 0
  (maxVal, { m with curMax := maxVal })

end MinMaxFilter

structure Bbrv3AckInfo where
  ackedBytes : Nat
  recordTime : Time
  delivered : Nat
deriving DecidableEq, Repr

structure BBRv3Sender where
  config : Bbrv3Config
  state : Bbrv3State
  pacingRate : Nat := 0
  pacingGain : ℚ
  sendQuantum : Nat := 0
  cwnd : Nat
  cwndGain : ℚ
  packetConservation : Bool := false
  priorCwnd : Nat := 0
  round : RoundTripCounter := {}
  idleRestart : Bool := false
  maxBw : Nat := 0
  bwHi : Nat
  bwLo : Nat := 0
  bw : Nat := 0
  minRtt : Duration
  minRttStamp : Time
  probeRttMinDelay : Duration
  probeRttMinStamp : Time
  probeRttExpired : Bool := false
  bdpVal : Nat := 0
  extraAcked : Nat := 0
  offloadBudget : Nat := 0
  maxInflight : Nat := 0
  inflightHi : Nat
  inflightLo : Nat := 0
  bwLatest : Nat := 0
  inflightLatest : Nat := 0
  maxBwFilter : SimpleMaxFilter := {}
  extraAckedFilter : MinMaxFilter
  cycleCount : Nat := 0
  cycleStamp : Time
  ackPhase : AckProbePhase := .init
  extraAckedIntervalStart : Time
  extraAckedDelivered : Nat := 0
  fullPipe : FullPipeEstimator := {}
  probeRttDoneStamp : Time
  probeRttRoundDone : Bool := false
  roundsSinceBwProbe : Nat := 0
  bwProbeWait : Duration
  bwProbeUpCnt : Nat
  bwProbeUpAcks : Nat := 0
  bwProbeUpRounds : Nat := 0
  bwProbeSamples : Bool := false
  lossRoundStart : Bool := false
  lossInRound : Bool := false
  inRecoveryMode : Bool := false
  recoveryEpochStart : Time
  sentTimes : Nat → Option Time := fun _ => none
  delivered : Nat := 0
  ackinfo : List Bbrv3AckInfo := []
  maxDatagramSize : Nat
  nextSendTime : Time := 0
  lastNewMinRTT : Duration
  lastNewMinRTTTime : Time

namespace BBRv3Sender

/-! ## gains and rounds -/

def updateGains (b : BBRv3Sender) : BBRv3Sender :=
  match b.state with
  | .startup => { b with pacingGain := 277 / 100, cwndGain := 2 }
  | .drain => { b with pacingGain := 1 / 2, cwndGain := 2 }
  | .probeBwDown => { b with pacingGain := 9 / 10, cwndGain := 2 }
  | .probeBwCruise => { b with pacingGain := 1, cwndGain := 2 }
  | .probeBwRefill => { b with pacingGain := 1, cwndGain := 2 }
  | .probeBwUp => { b with pacingGain := 125 / 100, cwndGain := 225 / 100 }
  | .probeRTT => { b with pacingGain := 1, cwndGain := 1 / 2 }

def initRoundCounting (b : BBRv3Sender) : BBRv3Sender :=
  { b with round := { roundCount := 0, isRoundStart := false, nextRoundDelivered := b.delivered } }

def startRound (b : BBRv3Sender) : BBRv3Sender :=
  { b with round := { b.round with nextRoundDelivered := b.delivered } }

/-- The largest `delivered` of the recorded acks, as `updateRound` computes it. -/
def maxDelivered (b : BBRv3Sender) : Nat :=
  b.ackinfo.foldl (fun acc info => if info.delivered > acc then info.delivered else acc) 0

def updateRound (b : BBRv3Sender) : BBRv3Sender :=
  if b.maxDelivered ≥ b.round.nextRoundDelivered then
    let b := b.startRound
    { b with
      round := { b.round with roundCount := b.round.roundCount + 1, isRoundStart := true }
      roundsSinceBwProbe := b.roundsSinceBwProbe + 1
      packetConservation := false }
  else
    { b with round := { b.round with isRoundStart := false } }

def initFullPipe (b : BBRv3Sender) : BBRv3Sender :=
  { b with fullPipe := { isFilledPipe := false, fullBw := 0, fullBwCount := 0 } }

def initPacingRate (b : BBRv3Sender) : BBRv3Sender :=
  let nominalBandwidth : ℚ := b.config.initialCwnd / seconds b.config.initialRtt
  let rate := truncate (startupPacingGain * nominalBandwidth)
  { b with pacingRate := rate, bw := rate, maxBw := rate }

def resetCongestionSignals (b : BBRv3Sender) : BBRv3Sender :=
  { b with lossInRound := false, bwLatest := 0, inflightLatest := 0 }

def resetLowerBounds (b : BBRv3Sender) : BBRv3Sender :=
  { b with bwLo := maxUint64, inflightLo := maxUint64 }

def enterStartup (b : BBRv3Sender) : BBRv3Sender :=
  updateGains { b with state := .startup }

def enterDrain (b : BBRv3Sender) : BBRv3Sender :=
  updateGains { b with state := .drain }

def enterProbeRtt (b : BBRv3Sender) : BBRv3Sender :=
  updateGains { b with state := .probeRTT }

/-! ## construction -/

/-- The method `init`; `now` is its clock reading. -/
def init (b : BBRv3Sender) (now : Time) : BBRv3Sender :=
  let b := { b with
    minRtt := if b.config.initialRtt = 0 then 1000 else b.config.initialRtt
    minRttStamp := now
    probeRttDoneStamp := 0
    probeRttRoundDone := false
    priorCwnd := 0
    idleRestart := false
    extraAckedIntervalStart := now
    extraAckedDelivered := 0
    ackPhase := .init
    bwHi := maxUint64
    inflightHi := maxUint64 }
  b.resetCongestionSignals.resetLowerBounds.initRoundCounting.initFullPipe.initPacingRate.enterStartup

/-- The configuration that `NewBBRv3Sender` builds for a datagram size. -/
def newConfig (initialMaxDatagramSize : Nat) : Bbrv3Config :=
  let maxDatagramSize :=
    if initialMaxDatagramSize = 0 then defaultMaxDatagramSize else initialMaxDatagramSize
  { minCwnd := minPipeCwndInSmss * maxDatagramSize
    initialCwnd := defaultInitialCwnd * maxDatagramSize
    initialRtt := 100 * millisecond
    maxDatagramSize := maxDatagramSize
    fullBwCountThreshold := fullBwCountThresholdConst
    fullBwGrowthRate := fullBwGrowthRateConst
    probeRttDuration := probeRttDurationConst
    probeRttInterval := probeRttIntervalConst
    lossThreshold := lossThresh
    fullLossCount := fullLossCnt
    beta := betaFactor
    headroom := headroomFactor }

/-- `NewBBRv3Sender`: `now` and `initNow` are the clock readings of the
constructor and of the `init` it ends with. -/
def newBBRv3Sender (initialMaxDatagramSize : Nat) (now initNow : Time) : BBRv3Sender :=
  let config := newConfig initialMaxDatagramSize
  let s : BBRv3Sender := {
    config := config
    state := .startup
    cwnd := config.initialCwnd
    pacingGain := 277 / 100
    cwndGain := 2
    minRtt := 10 * second
    minRttStamp := now
    probeRttMinDelay := 10 * second
    probeRttMinStamp := now
    extraAckedFilter := { window := extraAckedFilterLen }
    bwHi := maxUint64
    inflightHi := maxUint64
    extraAckedIntervalStart := now
    maxDatagramSize := initialMaxDatagramSize
    cycleStamp := now
    probeRttDoneStamp := now
    bwProbeWait := 1 * second
    bwProbeUpCnt := maxUint64
    recoveryEpochStart := now
    lastNewMinRTT := 10 * second
    lastNewMinRTTTime := now }
  s.init initNow

/-! ## bandwidth-delay product and inflight -/

/-- `bdp` stores the product at gain 1 in `bdpVal`. -/
def bdp (b : BBRv3Sender) (bw : Nat) (gain : ℚ) : Nat × BBRv3Sender :=
  if b.minRtt = 0 then (b.config.initialCwnd, b)
  else
    let bdp : ℚ := bw * seconds b.minRtt
    (truncate (gain * bdp), { b with bdpVal := truncate bdp })

def quantizationBudget (b : BBRv3Sender) (inflight : Nat) : Nat × BBRv3Sender :=
  let b := { b with offloadBudget := 3 * b.sendQuantum }
  let inflight := max (max inflight b.offloadBudget) b.config.minCwnd
  (if b.state = .probeBwUp then inflight + 2 * b.config.maxDatagramSize else inflight, b)

def inflight (b : BBRv3Sender) (gain : ℚ) : Nat × BBRv3Sender :=
  let (inflight, b) := b.bdp b.maxBw gain
  b.quantizationBudget inflight

def inflightWithHeadroom (b : BBRv3Sender) : Nat :=
  if b.inflightHi = maxUint64 then maxUint64
  else
    let headroom := truncate (b.inflightHi * b.config.headroom)
    let headroom := if headroom < 1 then 1 else headroom
    if b.inflightHi > headroom then max (b.inflightHi - headroom) b.config.minCwnd
    else b.config.minCwnd

def targetInflight (b : BBRv3Sender) : Nat := if b.bdpVal < b.cwnd then b.bdpVal else b.cwnd

def isFilledPipe (b : BBRv3Sender) : Bool := b.fullPipe.isFilledPipe

def isInProbeBwState (b : BBRv3Sender) : Bool :=
  match b.state with
  | .probeBwDown | .probeBwCruise | .probeBwRefill | .probeBwUp => true
  | _ => false

def boundBwForModel (b : BBRv3Sender) : BBRv3Sender :=
  let bw := b.maxBw
  let bw := if b.bwLo < bw then b.bwLo else bw
  let bw := if b.bwHi < bw then b.bwHi else bw
  { b with bw := bw }

/-! ## Startup and Drain -/

def checkStartupFullBandwidth (b : BBRv3Sender) : BBRv3Sender :=
  if b.isFilledPipe ∨ ¬ b.round.isRoundStart then b
  else if b.maxBw ≥ truncate (b.fullPipe.fullBw * (1 + b.config.fullBwGrowthRate)) then
    { b with fullPipe := { b.fullPipe with fullBw := b.maxBw, fullBwCount := 0 } }
  else
    let count := b.fullPipe.fullBwCount + 1
    { b with fullPipe := { b.fullPipe with
        fullBwCount := count
        isFilledPipe := if count ≥ b.config.fullBwCountThreshold then true
          else b.fullPipe.isFilledPipe } }

/-- `checkStartupHighLoss` has an empty body. -/
def checkStartupHighLoss (b : BBRv3Sender) : BBRv3Sender := b

def checkStartupDone (b : BBRv3Sender) : BBRv3Sender :=
  let b := b.checkStartupFullBandwidth.checkStartupHighLoss
  if b.state = .startup ∧ b.fullPipe.isFilledPipe then b.enterDrain else b

/-! ## ProbeBW -/

def pickProbeWait (b : BBRv3Sender) : BBRv3Sender :=
  { b with roundsSinceBwProbe := 0, bwProbeWait := 2500 * millisecond }

def startProbeBwDown (b : BBRv3Sender) (now : Time) : BBRv3Sender :=
  let b := b.resetCongestionSignals
  let b := { b with bwProbeUpCnt := maxUint64 }.pickProbeWait
  let b := { b with cycleStamp := now, ackPhase := .stopping }.startRound
  { b with state := .probeBwDown }

def startProbeBwCruise (b : BBRv3Sender) : BBRv3Sender :=
  { b with state := .probeBwCruise }

def startProbeBwRefill (b : BBRv3Sender) : BBRv3Sender :=
  let b := b.resetLowerBounds
  let b := { b with bwProbeUpRounds := 0, bwProbeUpAcks := 0, ackPhase := .refilling }.startRound
  { b with state := .probeBwRefill }

def raiseInflightHiSlope (b : BBRv3Sender) : BBRv3Sender :=
  let growthThisRound := 2 ^ b.bwProbeUpRounds
  let b := if b.bwProbeUpRounds < 30 then { b with bwProbeUpRounds := b.bwProbeUpRounds + 1 } else b
  if growthThisRound > 0 then
    let cnt := b.cwnd / growthThisRound
    { b with bwProbeUpCnt := if cnt < 1 then 1 else cnt }
  else b

def startProbeBwUp (b : BBRv3Sender) (now : Time) : BBRv3Sender :=
  let b := { b with ackPhase := .starting }.startRound
  let b := { b with
    fullPipe := { b.fullPipe with fullBw := b.maxBw }, cycleStamp := now, state := .probeBwUp }
  b.raiseInflightHiSlope

/-- `clock` is the clock reading that `enterProbeBw` passes on. -/
def enterProbeBw (b : BBRv3Sender) (clock : Time) : BBRv3Sender := b.startProbeBwDown clock

def checkDrain (b : BBRv3Sender) (bytesInFlight : Nat) (clock : Time) : BBRv3Sender :=
  if b.state = .drain then
    let (inflight, b) := b.inflight 1
    if bytesInFlight ≤ inflight then b.enterProbeBw clock else b
  else b

def hasElapsedInPhase (b : BBRv3Sender) (now : Time) (interval : Duration) : Bool :=
  now - b.cycleStamp ≥ interval

def isRenoCoexistenceProbeTime (b : BBRv3Sender) : Bool :=
  let renoRounds := b.targetInflight
  let rounds := if renoRounds > probeBwMaxRounds then probeBwMaxRounds else renoRounds
  b.roundsSinceBwProbe ≥ rounds

def checkTimeToProbeBw (b : BBRv3Sender) (now : Time) : Bool × BBRv3Sender :=
  if b.hasElapsedInPhase now b.bwProbeWait ∨ b.isRenoCoexistenceProbeTime then
    (true, b.startProbeBwRefill)
  else (false, b)

def checkTimeToCruise (b : BBRv3Sender) (bytesInFlight : Nat) : Bool × BBRv3Sender :=
  if bytesInFlight > b.inflightWithHeadroom then (false, b)
  else
    let (inflight, b) := b.inflight 1
    (decide (bytesInFlight ≤ inflight), b)

def probeInflightHiUpward (b : BBRv3Sender) (isCwndLimited : Bool) : BBRv3Sender :=
  if ¬ isCwndLimited ∨ b.cwnd < b.inflightHi then b
  else
    let b := { b with bwProbeUpAcks := b.bwProbeUpAcks + b.config.maxDatagramSize }
    let b :=
      if b.bwProbeUpAcks ≥ b.bwProbeUpCnt then
        let delta := b.bwProbeUpAcks / b.bwProbeUpCnt
        { b with
          bwProbeUpAcks := b.bwProbeUpAcks % b.bwProbeUpCnt
          inflightHi := b.inflightHi + delta * b.config.maxDatagramSize }
      else b
    if b.round.isRoundStart then b.raiseInflightHiSlope else b

def advanceMaxBwFilter (b : BBRv3Sender) : BBRv3Sender :=
  let b := { b with cycleCount := b.cycleCount + 1 }
  if b.maxBwFilter.bw1 = 0 then b
  else { b with maxBwFilter := { bw0 := b.maxBwFilter.bw1, bw1 := 0 } }

/-- `checkInflightTooHigh` always answers `false`. -/
def checkInflightTooHigh (_ : BBRv3Sender) : Bool := false

/-- The first phase change of `adaptUpperBounds`. -/
def startFeedback (b : BBRv3Sender) : BBRv3Sender :=
  if b.ackPhase = .starting ∧ b.round.isRoundStart then { b with ackPhase := .feedback } else b

/-- The second phase change of `adaptUpperBounds`. -/
def stopProbing (b : BBRv3Sender) : BBRv3Sender :=
  if b.ackPhase = .stopping ∧ b.round.isRoundStart then
    let b := { b with bwProbeSamples := false, ackPhase := .init }
    if b.isInProbeBwState ∧ b.maxBw > 0 then b.advanceMaxBwFilter else b
  else b

def adaptUpperBounds (b : BBRv3Sender) : BBRv3Sender :=
  let b := b.startFeedback.stopProbing
  if ¬ b.checkInflightTooHigh ∧ b.inflightHi = maxUint64 then b
  else if b.state = .probeBwUp then b.probeInflightHiUpward true
  else b

def updateProbeBwCyclePhase (b : BBRv3Sender) (now : Time) (bytesInFlight : Nat) : BBRv3Sender :=
  if ¬ b.isFilledPipe then b
  else
    let b := b.adaptUpperBounds
    match b.state with
    | .probeBwDown =>
      let (probe, b) := b.checkTimeToProbeBw now
      if probe then b
      else
        let (cruise, b) := b.checkTimeToCruise bytesInFlight
        if cruise then b.startProbeBwCruise else b
    | .probeBwCruise => (b.checkTimeToProbeBw now).2
    | .probeBwRefill =>
      if b.round.isRoundStart then { b with bwProbeSamples := true }.startProbeBwUp now else b
    | .probeBwUp =>
      if b.hasElapsedInPhase now b.minRtt then
        let (inflight, b) := b.inflight b.pacingGain
        if bytesInFlight > inflight then b.startProbeBwDown now else b
      else b
    | _ => b

/-! ## ProbeRTT -/

def updateMinRtt (b : BBRv3Sender) (now : Time) : BBRv3Sender :=
  let elapsed := now - b.probeRttMinStamp
  let b := { b with probeRttExpired := decide (elapsed > b.config.probeRttInterval) }
  if b.minRtt = 0 ∨ b.probeRttExpired then
    { b with minRtt := b.config.initialRtt, minRttStamp := now }
  else b

def saveCwnd (b : BBRv3Sender) : BBRv3Sender :=
  if ¬ b.inRecoveryMode ∧ b.state ≠ .probeRTT then { b with priorCwnd := b.cwnd }
  else if b.cwnd > b.priorCwnd then { b with priorCwnd := b.cwnd }
  else b

def restoreCwnd (b : BBRv3Sender) : BBRv3Sender :=
  if b.cwnd < b.priorCwnd then { b with cwnd := b.priorCwnd } else b

def probeRttCwnd (b : BBRv3Sender) : Nat × BBRv3Sender := b.bdp b.bw b.cwndGain

def exitProbeRtt (b : BBRv3Sender) (now : Time) : BBRv3Sender :=
  let b := b.resetLowerBounds
  if b.isFilledPipe then (b.startProbeBwDown now).startProbeBwCruise else b.enterStartup

def checkProbeRttDone (b : BBRv3Sender) (now : Time) : BBRv3Sender :=
  if b.probeRttDoneStamp > 0 ∧ now - b.probeRttDoneStamp ≥ 0 then
    ({ b with probeRttMinStamp := now }.restoreCwnd).exitProbeRtt now
  else b

def handleProbeRtt (b : BBRv3Sender) (now : Time) (bytesInFlight : Nat) : BBRv3Sender :=
  if b.probeRttDoneStamp > 0 then
    let b := if b.round.isRoundStart then { b with probeRttRoundDone := true } else b
    if b.probeRttRoundDone then b.checkProbeRttDone now else b
  else
    let (cwnd, b) := b.probeRttCwnd
    if bytesInFlight ≤ cwnd then
      { b with
        probeRttDoneStamp := now + b.config.probeRttDuration
        probeRttRoundDone := false }.startRound
    else b

/-- The entry into ProbeRTT of `checkProbeRtt`. -/
def beginProbeRtt (b : BBRv3Sender) : BBRv3Sender :=
  let b := b.enterProbeRtt.saveCwnd
  { b with probeRttDoneStamp := 0, ackPhase := .stopping }.startRound

def checkProbeRtt (b : BBRv3Sender) (now : Time) (bytesInFlight : Nat) : BBRv3Sender :=
  let b :=
    if b.state ≠ .probeRTT ∧ b.probeRttExpired ∧ ¬ b.idleRestart then b.beginProbeRtt else b
  if b.state = .probeRTT then b.handleProbeRtt now bytesInFlight else b

/-! ## recovery -/

def enterRecovery (b : BBRv3Sender) (now : Time) : BBRv3Sender :=
  let b := b.saveCwnd
  { b with
    recoveryEpochStart := now
    cwnd := b.config.minCwnd + b.config.maxDatagramSize
    packetConservation := true
    inRecoveryMode := true }.startRound

def exitRecovery (b : BBRv3Sender) : BBRv3Sender :=
  { b with recoveryEpochStart := 0, packetConservation := false, inRecoveryMode := false }.restoreCwnd

/-! ## control parameters -/

def setPacingRateWithGain (b : BBRv3Sender) (gain : ℚ) : BBRv3Sender :=
  let rate := truncate (gain * b.bw * (1 - pacingMarginPercent))
  if b.isFilledPipe ∨ rate > b.pacingRate then { b with pacingRate := rate } else b

def setPacingRate (b : BBRv3Sender) : BBRv3Sender := b.setPacingRateWithGain b.pacingGain

def setSendQuantum (b : BBRv3Sender) : BBRv3Sender :=
  let floor :=
    if b.pacingRate < sendQuantumThresholdPacing then b.config.maxDatagramSize
    else 2 * b.config.maxDatagramSize
  let quantum := b.pacingRate / 1000
  let quantum := if quantum < floor then floor else quantum
  { b with sendQuantum := if quantum > 64 * 1024 then 64 * 1024 else quantum }

def updateControlParameters (b : BBRv3Sender) : BBRv3Sender := b.setPacingRate.setSendQuantum

def updateMaxInflight (b : BBRv3Sender) : BBRv3Sender :=
  let (inflight, b) := b.bdp b.maxBw b.cwndGain
  let (extra, filter) := b.extraAckedFilter.get
  let b := { b with extraAckedFilter := filter }
  let (maxInflight, b) := b.quantizationBudget (inflight + extra)
  { b with maxInflight := maxInflight }

def modulateCwndForRecovery (b : BBRv3Sender) (bytesInFlight : Nat) : BBRv3Sender :=
  if b.packetConservation then
    if b.cwnd < bytesInFlight + b.config.maxDatagramSize then
      { b with cwnd := bytesInFlight + b.config.maxDatagramSize }
    else b
  else b

def boundCwndForProbeRtt (b : BBRv3Sender) : BBRv3Sender :=
  if b.state = .probeRTT then
    let (limit, b) := b.probeRttCwnd
    if b.cwnd > limit then { b with cwnd := limit } else b
  else b

/-- The cap that `boundCwndForModel` puts on the window. -/
def modelCap (b : BBRv3Sender) : Nat :=
  let cap :=
    if b.isInProbeBwState ∧ b.state ≠ .probeBwCruise then min maxUint64 b.inflightHi
    else if b.state = .probeRTT ∨ b.state = .probeBwCruise then
      min maxUint64 b.inflightWithHeadroom
    else maxUint64
  max (min cap b.inflightLo) b.config.minCwnd

def boundCwndForModel (b : BBRv3Sender) : BBRv3Sender :=
  if b.cwnd > b.modelCap then { b with cwnd := b.modelCap } else b

/-- The floor of `setCwnd`. -/
def floorCwnd (b : BBRv3Sender) : BBRv3Sender :=
  if ¬ b.packetConservation ∧ b.cwnd < b.config.minCwnd then { b with cwnd := b.config.minCwnd }
  else b

/-- `setCwnd`.  The branches that compare the window with `maxInflight` hold
only the comment "cwnd += newly_acked_bytes", so the window never grows here. -/
def setCwnd (b : BBRv3Sender) (bytesInFlight : Nat) : BBRv3Sender :=
  let b := (b.updateMaxInflight.modulateCwndForRecovery bytesInFlight).floorCwnd
  b.boundCwndForProbeRtt.boundCwndForModel

/-! ## the model update of an ack -/

def updateLatestDeliverySignals (b : BBRv3Sender) : BBRv3Sender :=
  { b with lossRoundStart := false }

/-- `updateCongestionSignals` calls `updateMaxBw`, whose body is empty. -/
def updateCongestionSignals (b : BBRv3Sender) : BBRv3Sender := b

def updateAckAggregation (b : BBRv3Sender) : BBRv3Sender := { b with extraAcked := 0 }

/-- `advanceLatestDeliverySignals` tests `lossRoundStart` and does nothing. -/
def advanceLatestDeliverySignals (b : BBRv3Sender) : BBRv3Sender := b

/-- The first half of `updateModelAndState`, up to the min-RTT update. -/
def updateModel (b : BBRv3Sender) (now : Time) (bytesInFlight : Nat) (clock : Time) : BBRv3Sender :=
  let b := b.updateLatestDeliverySignals.updateCongestionSignals.updateAckAggregation
  (b.checkStartupDone.checkDrain bytesInFlight clock).updateProbeBwCyclePhase now bytesInFlight

def updateModelAndState (b : BBRv3Sender) (now : Time) (bytesInFlight : Nat) (clock : Time) :
    BBRv3Sender :=
  let b := (b.updateModel now bytesInFlight clock).updateMinRtt now
  (b.checkProbeRtt now bytesInFlight).advanceLatestDeliverySignals.boundBwForModel

def updateMaxBwFilter (b : BBRv3Sender) : BBRv3Sender :=
  if b.maxBwFilter.bw1 = 0 then b
  else
    let filter : SimpleMaxFilter := { bw0 := b.maxBwFilter.bw1, bw1 := 0 }
    { b with maxBwFilter := filter, maxBw := filter.maxBw }

/-! ## the send algorithm -/

def timeUntilSend (b : BBRv3Sender) : Time := b.nextSendTime

def exitProbeRTTFromAbove (b : BBRv3Sender) (now : Time) : BBRv3Sender :=
  if b.isFilledPipe then (b.startProbeBwDown now).startProbeBwCruise else b.enterStartup

def maybeExitProbeRTT (b : BBRv3Sender) (now : Time) : BBRv3Sender :=
  if b.state = .probeRTT ∧ b.probeRttDoneStamp > 0 ∧
      now - b.probeRttDoneStamp ≥ b.config.probeRttDuration then
    b.exitProbeRTTFromAbove now
  else b

/-- `HasPacingBudget` answers `true` on each of its branches. -/
def hasPacingBudget (b : BBRv3Sender) (now : Time) : Bool × BBRv3Sender :=
  (true, b.maybeExitProbeRTT now)

/-- `OnPacketSent`.  The bytes in flight and the retransmittable flag of the
source are read only for the statistics. -/
def onPacketSent (b : BBRv3Sender) (sentTime : Time) (packetNumber bytes : Nat) : BBRv3Sender :=
  let b := { b with sentTimes := Function.update b.sentTimes packetNumber (some sentTime) }
  if b.pacingRate > 0 then
    let timePerByte : ℚ := 1000000000 / (b.pacingRate * b.pacingGain)
    { b with nextSendTime := sentTime + truncate (bytes * timePerByte) }
  else b

def canSend (b : BBRv3Sender) (bytesInFlight : Nat) : Bool := bytesInFlight < b.cwnd

def calculateDeliveryRate (b : BBRv3Sender) (eventTime : Time) : Nat :=
  match b.ackinfo with
  | [] => 0
  | oldest :: _ =>
    let interval := eventTime - oldest.recordTime
    if interval ≤ 0 then 0
    else
      let totalBytes := (b.ackinfo.map (·.ackedBytes)).sum
      truncate (totalBytes / seconds interval)

/-- The first part of `OnPacketAcked`: the RTT sample and the delivery record of
a packet that was sent at `sentTime`. -/
def recordAck (b : BBRv3Sender) (number ackedBytes : Nat) (sentTime eventTime : Time) :
    BBRv3Sender :=
  let b := { b with sentTimes := Function.update b.sentTimes number none }
  let rtt := eventTime - sentTime
  let b :=
    if rtt > 0 ∧ (b.lastNewMinRTT ≤ 0 ∨ rtt < b.lastNewMinRTT) then
      { b with
        lastNewMinRTT := rtt, lastNewMinRTTTime := eventTime, minRtt := rtt, minRttStamp := eventTime }
    else b
  let b := { b with delivered := b.delivered + ackedBytes }
  let ackinfo := b.ackinfo ++ [⟨ackedBytes, eventTime, b.delivered⟩]
  { b with ackinfo := if ackinfo.length > 16 then ackinfo.drop (ackinfo.length - 16) else ackinfo }

/-- The round and bandwidth samples of `OnPacketAcked`. -/
def sampleAck (b : BBRv3Sender) (eventTime : Time) : BBRv3Sender :=
  let b := b.updateRound
  let deliveryRate := b.calculateDeliveryRate eventTime
  if deliveryRate > b.maxBw ∨ (b.bw > 0 ∧ deliveryRate > 0) then
    { b with maxBw := deliveryRate, maxBwFilter := { b.maxBwFilter with bw1 := deliveryRate } }
  else b

/-- "Check if round trip has passed": whether the ack updates the model. -/
def roundTripPassed (b : BBRv3Sender) (eventTime : Time) : Bool :=
  eventTime - b.minRttStamp ≥ b.minRtt || b.round.isRoundStart

/-- The second entry into ProbeRTT, at the end of `OnPacketAcked`. -/
def checkMinRttAge (b : BBRv3Sender) (eventTime : Time) : BBRv3Sender :=
  if eventTime - b.minRttStamp ≥ 10 * second ∧ eventTime - b.probeRttDoneStamp ≥ 10 * second then
    { b with
      state := .probeRTT, pacingGain := 1, cwndGain := 1, minRtt := 10 * second
      probeRttDoneStamp := eventTime }
  else b

/-- The model update of `OnPacketAcked`, up to the new window. -/
def updateOnAck (b : BBRv3Sender) (priorInFlight : Nat) (eventTime clock : Time) : BBRv3Sender :=
  let b := (b.updateModelAndState eventTime priorInFlight clock).updateGains
  b.updateControlParameters.setCwnd priorInFlight

/-- The second Drain check of `OnPacketAcked`. -/
def leaveDrain (b : BBRv3Sender) (priorInFlight : Nat) (clock : Time) : BBRv3Sender :=
  if b.state = .drain then
    let (inflight, b) := b.inflight 1
    if priorInFlight < inflight then b.enterProbeBw clock else b
  else b

/-- What `OnPacketAcked` does after an exit from recovery. -/
def processAck (b : BBRv3Sender) (priorInFlight : Nat) (eventTime clock : Time) : BBRv3Sender :=
  let b := (b.updateOnAck priorInFlight eventTime clock).checkStartupDone
  (b.leaveDrain priorInFlight clock).updateMaxBwFilter.checkMinRttAge eventTime

/-- The sender after an ack has been recorded and ProbeRTT possibly left: the
point at which `OnPacketAcked` returns while the sender is in ProbeRTT. -/
def ackArrived (b : BBRv3Sender) (number ackedBytes : Nat) (sentTime eventTime : Time) :
    BBRv3Sender :=
  (b.recordAck number ackedBytes sentTime eventTime).maybeExitProbeRTT eventTime

/-- The sender after a round trip has passed, out of recovery. -/
def leaveRecovery (b : BBRv3Sender) : BBRv3Sender :=
  if b.inRecoveryMode then b.exitRecovery else b

/-- `OnPacketAcked`; `clock` is the clock reading of `enterProbeBw`. -/
def onPacketAcked (b : BBRv3Sender) (number ackedBytes priorInFlight : Nat)
    (eventTime clock : Time) : BBRv3Sender :=
  match b.sentTimes number with
  | none => b
  | some sentTime =>
    let b := b.ackArrived number ackedBytes sentTime eventTime
    if b.state = .probeRTT then b
    else
      let b := b.sampleAck eventTime
      if b.roundTripPassed eventTime then
        b.leaveRecovery.processAck priorInFlight eventTime clock
      else b

/-- The recovery entry of `OnCongestionEvent`. -/
def recoverOnLoss (b : BBRv3Sender) (clock : Time) : BBRv3Sender :=
  if ¬ b.inRecoveryMode ∧ b.state ≠ .startup ∧ b.state ≠ .probeRTT then
    { b with inRecoveryMode := true, pacingGain := 1 }.enterRecovery clock
  else b

/-- The window cut of `OnCongestionEvent`: only its second branch knows the floor. -/
def subtractLoss (b : BBRv3Sender) (lostBytes : Nat) : BBRv3Sender :=
  if b.cwnd > lostBytes then { b with cwnd := b.cwnd - lostBytes }
  else { b with cwnd := b.config.minCwnd }

/-- `OnCongestionEvent`; `clock` is the clock reading of the recovery entry.  The
source does not read the packet number and the bytes in flight. -/
def onCongestionEvent (b : BBRv3Sender) (lostBytes : Nat) (clock : Time) : BBRv3Sender :=
  (b.recoverOnLoss clock).subtractLoss lostBytes

/-- `OnRetransmissionTimeout` rebuilds the sender but keeps its configuration. -/
def onRetransmissionTimeout (b : BBRv3Sender) (packetsRetransmitted : Bool) (now initNow : Time) :
    BBRv3Sender :=
  if packetsRetransmitted then
    { newBBRv3Sender b.maxDatagramSize now initNow with
      config := b.config, maxDatagramSize := b.maxDatagramSize }
  else b

def setMaxDatagramSize (b : BBRv3Sender) (maxDatagramSize : Nat) : BBRv3Sender :=
  { b with
    maxDatagramSize := maxDatagramSize
    config := { b.config with
      maxDatagramSize := maxDatagramSize, minCwnd := minPipeCwndInSmss * maxDatagramSize } }

def getCongestionWindow (b : BBRv3Sender) : Nat := b.cwnd

def inRecovery (b : BBRv3Sender) : Bool := b.inRecoveryMode

def inSlowStart (b : BBRv3Sender) : Bool := b.state = .startup

/-! ## runs -/

/-- The calls a sender receives, with the clock readings they make.  A reading of
the monotonic clock is never negative. -/
inductive Op where
  | sent (sentTime : Nat) (packetNumber bytes : Nat)
  | acked (number ackedBytes priorInFlight : Nat) (eventTime clock : Nat)
  | lost (lostBytes : Nat) (clock : Nat)
  | pacing (now : Nat)
  | timeout (packetsRetransmitted : Bool) (now initNow : Nat)
  | setMaxDatagramSize (size : Nat)

def step (b : BBRv3Sender) : Op → BBRv3Sender
  | .sent sentTime number bytes => b.onPacketSent sentTime number bytes
  | .acked number bytes prior eventTime clock => b.onPacketAcked number bytes prior eventTime clock
  | .lost bytes clock => b.onCongestionEvent bytes clock
  | .pacing now => (b.hasPacingBudget now).2
  | .timeout retransmitted now initNow => b.onRetransmissionTimeout retransmitted now initNow
  | .setMaxDatagramSize size => b.setMaxDatagramSize size

end BBRv3Sender

end MoqQuic
