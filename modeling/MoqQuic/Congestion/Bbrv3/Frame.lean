import MoqQuic.Congestion.Bbrv3

/-!
# MoqQuic.Congestion.Bbrv3.Frame

What the methods of the sender leave alone.

`Core` is the part of the sender that the window and the ProbeRTT episodes
depend on, with the state machine reduced to the question whether the sender
is in ProbeRTT.  Most methods do not touch it; each of them gets one equation
`core_f`, and the few that do touch it get the equation of what they change.
Later proofs use these equations and never unfold a method again.

`Core.Unbounded` says that no model bound is in force.  The source lowers
`inflightHi`, `inflightLo`, `bwHi` and `bwLo` only in functions that are never
called, or behind a test that the bound has been lowered before.
-/

namespace MoqQuic.BBRv3Sender

/-- The fields that decide the window and the ProbeRTT episodes. -/
structure Core where
  config : Bbrv3Config
  inProbeRTT : Bool
  cwnd : Nat
  priorCwnd : Nat
  packetConservation : Bool
  inRecoveryMode : Bool
  bw : Nat
  maxBw : Nat
  minRtt : Duration
  minRttStamp : Time
  probeRttMinStamp : Time
  probeRttDoneStamp : Time
  probeRttExpired : Bool
  idleRestart : Bool
  bwHi : Nat
  bwLo : Nat
  inflightHi : Nat
  inflightLo : Nat
  sentTimes : Nat → Option Time
  maxDatagramSize : Nat

/-- No model bound is in force. -/
structure Core.Unbounded (c : Core) : Prop where
  bwHi : c.bwHi = maxUint64
  bwLo : c.bwLo = maxUint64
  inflightHi : c.inflightHi = maxUint64
  inflightLo : c.inflightLo = maxUint64

def core (b : BBRv3Sender) : Core where
  config := b.config
  inProbeRTT := b.state = .probeRTT
  cwnd := b.cwnd
  priorCwnd := b.priorCwnd
  packetConservation := b.packetConservation
  inRecoveryMode := b.inRecoveryMode
  bw := b.bw
  maxBw := b.maxBw
  minRtt := b.minRtt
  minRttStamp := b.minRttStamp
  probeRttMinStamp := b.probeRttMinStamp
  probeRttDoneStamp := b.probeRttDoneStamp
  probeRttExpired := b.probeRttExpired
  idleRestart := b.idleRestart
  bwHi := b.bwHi
  bwLo := b.bwLo
  inflightHi := b.inflightHi
  inflightLo := b.inflightLo
  sentTimes := b.sentTimes
  maxDatagramSize := b.maxDatagramSize

theorem ite_lt_eq_max (f : Nat → BBRv3Sender) (m n : Nat) :
    (if m < n then f n else f m) = f (max m n) := by
  split
  · next h => rw [Nat.max_eq_right (Nat.le_of_lt h)]
  · next h => rw [Nat.max_eq_left (Nat.le_of_not_lt h)]

theorem ite_gt_eq_min (f : Nat → BBRv3Sender) (m n : Nat) :
    (if m > n then f n else f m) = f (min m n) := by
  split
  · next h => rw [Nat.min_eq_right (Nat.le_of_lt h)]
  · next h => rw [Nat.min_eq_left (Nat.le_of_not_lt h)]

variable (b : BBRv3Sender)

theorem restoreCwnd_eq : b.restoreCwnd = { b with cwnd := max b.cwnd b.priorCwnd } :=
  ite_lt_eq_max (fun w => { b with cwnd := w }) b.cwnd b.priorCwnd

/-- In recovery and in ProbeRTT, the saved window only ever grows. -/
theorem saveCwnd_eq (h : b.inRecoveryMode = true ∨ b.state = .probeRTT) :
    b.saveCwnd = { b with priorCwnd := max b.priorCwnd b.cwnd } := by
  rw [saveCwnd, if_neg (by tauto)]
  exact ite_lt_eq_max (fun w => { b with priorCwnd := w }) b.priorCwnd b.cwnd

@[simp] theorem core_inProbeRTT : b.core.inProbeRTT = true ↔ b.state = .probeRTT := by
  simp [core]

theorem core_clear (h : b.state ≠ .probeRTT) : { b.core with inProbeRTT := false } = b.core := by
  simp [core, h]

/-- Resetting bounds that are not in force changes nothing. -/
theorem core_reset (hu : b.core.Unbounded) :
    { b.core with bwLo := maxUint64, inflightLo := maxUint64 } = b.core := by
  obtain ⟨-, hlo, -, hilo⟩ := hu
  generalize b.core = c at hlo hilo ⊢
  cases c
  subst hlo hilo
  rfl

/-! ## methods that leave the core alone -/

@[simp] theorem core_updateGains : b.updateGains.core = b.core := by
  unfold updateGains
  split <;> rfl

@[simp] theorem core_startRound : b.startRound.core = b.core := rfl

@[simp] theorem core_bdp (bw : Nat) (gain : ℚ) : (b.bdp bw gain).2.core = b.core := by
  unfold bdp
  split <;> rfl

@[simp] theorem core_inflight (gain : ℚ) : (b.inflight gain).2.core = b.core := by
  simp only [inflight, quantizationBudget]
  exact core_bdp b _ _

@[simp] theorem core_enterStartup : b.enterStartup.core = { b.core with inProbeRTT := false } := by
  simp [enterStartup]
  rfl

@[simp] theorem core_enterDrain : b.enterDrain.core = { b.core with inProbeRTT := false } := by
  simp [enterDrain]
  rfl

variable (now : Time)

@[simp] theorem core_startProbeBwDown :
    (b.startProbeBwDown now).core = { b.core with inProbeRTT := false } := rfl

@[simp] theorem core_startProbeBwCruise :
    b.startProbeBwCruise.core = { b.core with inProbeRTT := false } := rfl

theorem core_startProbeBwRefill (hu : b.core.Unbounded) :
    b.startProbeBwRefill.core = { b.core with inProbeRTT := false } := by
  rw [← core_reset b hu]
  rfl

@[simp] theorem core_raiseInflightHiSlope : b.raiseInflightHiSlope.core = b.core := by
  unfold raiseInflightHiSlope
  dsimp only
  split <;> split <;> rfl

@[simp] theorem core_startProbeBwUp :
    (b.startProbeBwUp now).core = { b.core with inProbeRTT := false } := by
  simp [startProbeBwUp]
  rfl

@[simp] theorem core_checkStartupFullBandwidth : b.checkStartupFullBandwidth.core = b.core := by
  unfold checkStartupFullBandwidth
  split
  · rfl
  · split <;> rfl

@[simp] theorem core_checkStartupDone : b.checkStartupDone.core = b.core := by
  have hcore := core_checkStartupFullBandwidth b
  unfold checkStartupDone checkStartupHighLoss
  dsimp only
  split
  · next h =>
    have hst : b.checkStartupFullBandwidth.state ≠ .probeRTT := by
      rw [h.1]
      decide
    rw [core_enterDrain, core_clear _ hst, hcore]
  · exact hcore

variable (bytesInFlight : Nat)

@[simp] theorem core_checkDrain (clock : Time) :
    (b.checkDrain bytesInFlight clock).core = b.core := by
  unfold checkDrain
  split
  · next h =>
    dsimp only
    split
    · rw [enterProbeBw, core_startProbeBwDown, core_inflight]
      exact core_clear b (by simp [h])
    · exact core_inflight b _
  · rfl

theorem core_checkTimeToProbeBw (hu : b.core.Unbounded) (h : b.state ≠ .probeRTT) :
    (b.checkTimeToProbeBw now).2.core = b.core := by
  unfold checkTimeToProbeBw
  split
  · rw [core_startProbeBwRefill b hu, core_clear b h]
  · rfl

@[simp] theorem core_checkTimeToCruise : (b.checkTimeToCruise bytesInFlight).2.core = b.core := by
  unfold checkTimeToCruise
  split
  · rfl
  · exact core_inflight b _

@[simp] theorem core_startFeedback : b.startFeedback.core = b.core := by
  unfold startFeedback
  split <;> rfl

@[simp] theorem core_advanceMaxBwFilter : b.advanceMaxBwFilter.core = b.core := by
  unfold advanceMaxBwFilter
  dsimp only
  split <;> rfl

@[simp] theorem core_stopProbing : b.stopProbing.core = b.core := by
  unfold stopProbing
  split
  · dsimp only
    split
    · exact core_advanceMaxBwFilter _
    · rfl
  · rfl

/-- An `inflightHi` that has never been lowered is never raised either: the test
for `^uint64(0)` returns before `probeInflightHiUpward`. -/
theorem adaptUpperBounds_eq (hu : b.core.Unbounded) :
    b.adaptUpperBounds = b.startFeedback.stopProbing := by
  have hcore : b.startFeedback.stopProbing.core = b.core := by simp
  have hhi : b.startFeedback.stopProbing.inflightHi = maxUint64 := by
    change b.startFeedback.stopProbing.core.inflightHi = maxUint64
    rw [hcore, hu.inflightHi]
  unfold adaptUpperBounds
  dsimp only
  rw [if_pos ⟨by simp [checkInflightTooHigh], hhi⟩]

theorem core_adaptUpperBounds (hu : b.core.Unbounded) : b.adaptUpperBounds.core = b.core := by
  simp [adaptUpperBounds_eq b hu]

/-- The ProbeBW cycle moves between states other than ProbeRTT. -/
theorem core_updateProbeBwCyclePhase (bytesInFlight : Nat) (hu : b.core.Unbounded) :
    (b.updateProbeBwCyclePhase now bytesInFlight).core = b.core := by
  unfold updateProbeBwCyclePhase
  split
  · rfl
  · have hcore := core_adaptUpperBounds b hu
    dsimp only
    generalize b.adaptUpperBounds = a at hcore ⊢
    rw [← hcore] at hu ⊢
    split
    · next hst =>
      have hne : a.state ≠ .probeRTT := by rw [hst]; decide
      have hprobe := core_checkTimeToProbeBw a now hu hne
      have hne' : (a.checkTimeToProbeBw now).2.state ≠ .probeRTT := by
        rw [Ne, ← core_inProbeRTT, hprobe, core_inProbeRTT]
        exact hne
      split
      · exact hprobe
      · split
        · rw [core_startProbeBwCruise, core_checkTimeToCruise, core_clear _ hne', hprobe]
        · rw [core_checkTimeToCruise, hprobe]
    · next hst => exact core_checkTimeToProbeBw a now hu (by rw [hst]; decide)
    · next hst =>
      split
      · rw [core_startProbeBwUp]
        exact core_clear a (by rw [hst]; decide)
      · rfl
    · next hst =>
      split
      · split
        · rw [core_startProbeBwDown, core_inflight]
          exact core_clear a (by rw [hst]; decide)
        · exact core_inflight a _
      · rfl
    · rfl

theorem core_updateModel (bytesInFlight : Nat) (clock : Time)
    (hu : b.core.Unbounded) : (b.updateModel now bytesInFlight clock).core = b.core := by
  have hcore : ((b.updateLatestDeliverySignals.updateCongestionSignals.updateAckAggregation
      ).checkStartupDone.checkDrain bytesInFlight clock).core = b.core := by
    rw [core_checkDrain, core_checkStartupDone]
    rfl
  unfold updateModel
  dsimp only
  rw [core_updateProbeBwCyclePhase _ _ _ (by rw [hcore]; exact hu), hcore]

@[simp] theorem core_updateControlParameters : b.updateControlParameters.core = b.core := by
  unfold updateControlParameters setPacingRate setPacingRateWithGain setSendQuantum
  dsimp only
  split <;> rfl

@[simp] theorem core_updateMaxInflight : b.updateMaxInflight.core = b.core := by
  simp only [updateMaxInflight, quantizationBudget]
  exact core_bdp b _ _

@[simp] theorem core_leaveDrain (clock : Time) :
    (b.leaveDrain bytesInFlight clock).core = b.core := by
  unfold leaveDrain
  split
  · next h =>
    dsimp only
    split
    · rw [enterProbeBw, core_startProbeBwDown, core_inflight]
      exact core_clear b (by simp [h])
    · exact core_inflight b _
  · rfl

/-! ## methods that change the core -/

/-- Leaving ProbeRTT from above clears the flag and nothing else: neither the
window nor the min-RTT stamp is restored. -/
@[simp] theorem core_exitProbeRTTFromAbove :
    (b.exitProbeRTTFromAbove now).core = { b.core with inProbeRTT := false } := by
  unfold exitProbeRTTFromAbove
  split <;> simp

@[simp] theorem core_updateMaxBwFilter :
    b.updateMaxBwFilter.core = { b.core with maxBw := b.updateMaxBwFilter.maxBw } := by
  unfold updateMaxBwFilter
  split <;> rfl

theorem core_boundBwForModel (hu : b.core.Unbounded) :
    b.boundBwForModel.core = { b.core with bw := min b.maxBw maxUint64 } := by
  have hlo : b.bwLo = maxUint64 := hu.bwLo
  have hhi : b.bwHi = maxUint64 := hu.bwHi
  have hbw : b.boundBwForModel.bw = min b.maxBw maxUint64 := by
    by_cases h : maxUint64 < b.maxBw
    · simp [boundBwForModel, hlo, hhi, h, Nat.le_of_lt h]
    · simp [boundBwForModel, hlo, hhi, h, Nat.le_of_not_lt h]
  rw [← hbw]
  rfl

end MoqQuic.BBRv3Sender
