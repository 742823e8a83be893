import MoqQuic.Congestion.Bbrv3.Step

/-!
# MoqQuic.Congestion.Bbrv3.Meter

The measurements of the sender: its rounds, its delivery records and its bandwidth.

`Measured b b'` says that `b'` has the measurements of `b`: the model update of an ack changes none
of them, except that it may start to wait for a new round (`nextRoundDelivered`) and move the newest
entry out of the bandwidth filter. `Kept b b'` says so and that the check of the full pipe has not
run in between. Every method of the update gets one lemma `kept_f` or `measured_f`.

From that follows what a recorded ack does to the round counter. `nextRoundDelivered` is never more
than `delivered` (`Started`), so the record that an ack adds always reaches it: every ack that
arrives outside ProbeRTT starts a round (`isRoundStart_sampleAck`).
-/

namespace MoqQuic

/-! ## truncation -/

theorem truncate_natCast (n : Nat) : truncate n = n := by
  change ⌊(n : ℚ)⌋.toNat = n
  rw [Int.floor_natCast]
  rfl

theorem truncate_natCast_div (n d : Nat) : truncate ((n : ℚ) / d) = n / d := by
  change ⌊(n : ℚ) / d⌋.toNat = n / d
  rw [Rat.floor_natCast_div_natCast]
  rfl

namespace FullPipeEstimator

/-- One estimate, or two that are both closed. -/
def Same (p q : FullPipeEstimator) : Prop :=
  p = q ∨ (p.isFilledPipe = true ∧ q.isFilledPipe = true)

variable {p q r : FullPipeEstimator}

theorem Same.isFilledPipe (h : p.Same q) : p.isFilledPipe = q.isFilledPipe := by
  obtain rfl | ⟨hp, hq⟩ := h
  · rfl
  · rw [hp, hq]

theorem Same.trans (h : p.Same q) (h' : q.Same r) : p.Same r := by
  obtain rfl | ⟨hp, hq⟩ := h
  · exact h'
  · exact .inr ⟨hp, h'.isFilledPipe.symm.trans hq⟩

end FullPipeEstimator

namespace BBRv3Sender

/-- The fields that measure. -/
structure Meter where
  config : Bbrv3Config
  round : RoundTripCounter
  delivered : Nat
  ackinfo : List Bbrv3AckInfo
  maxBw : Nat
  newest : Nat
  fullPipe : FullPipeEstimator

def meter (b : BBRv3Sender) : Meter where
  config := b.config
  round := b.round
  delivered := b.delivered
  ackinfo := b.ackinfo
  maxBw := b.maxBw
  newest := b.maxBwFilter.bw1
  fullPipe := b.fullPipe

/-- `b'` has the measurements of `b`. -/
structure Measured (b b' : BBRv3Sender) : Prop where
  config : b'.config = b.config
  roundCount : b'.round.roundCount = b.round.roundCount
  isRoundStart : b'.round.isRoundStart = b.round.isRoundStart
  delivered : b'.delivered = b.delivered
  ackinfo : b'.ackinfo = b.ackinfo
  maxBw : b'.maxBw = b.maxBw
  next : b'.round.nextRoundDelivered = b.round.nextRoundDelivered ∨
    b'.round.nextRoundDelivered = b.delivered
  newest : b'.maxBwFilter.bw1 = b.maxBwFilter.bw1 ∨ b'.maxBwFilter.bw1 = 0

/-- `b'` has the measurements of `b`, and the estimate of a full pipe is still open or closed. -/
structure Kept (b b' : BBRv3Sender) : Prop extends Measured b b' where
  pipe : b'.fullPipe.Same b.fullPipe

variable {b b' b'' : BBRv3Sender}

theorem Measured.trans (h : Measured b b') (h' : Measured b' b'') : Measured b b'' where
  config := h'.config.trans h.config
  roundCount := h'.roundCount.trans h.roundCount
  isRoundStart := h'.isRoundStart.trans h.isRoundStart
  delivered := h'.delivered.trans h.delivered
  ackinfo := h'.ackinfo.trans h.ackinfo
  maxBw := h'.maxBw.trans h.maxBw
  next := by
    obtain heq | heq := h'.next
    · rw [heq]
      exact h.next
    · exact .inr (heq.trans h.delivered)
  newest := by
    obtain heq | heq := h'.newest
    · rw [heq]
      exact h.newest
    · exact .inr heq

namespace Kept

/-- Nothing is measured. -/
theorem of_eq (h : b'.meter = b.meter) : Kept b b' where
  config := congrArg (·.config) h
  roundCount := congrArg (·.round.roundCount) h
  isRoundStart := congrArg (·.round.isRoundStart) h
  delivered := congrArg (·.delivered) h
  ackinfo := congrArg (·.ackinfo) h
  maxBw := congrArg (·.maxBw) h
  next := .inl (congrArg (·.round.nextRoundDelivered) h)
  newest := .inl (congrArg (·.newest) h)
  pipe := .inl (congrArg (·.fullPipe) h)

theorem trans (h : Kept b b') (h' : Kept b' b'') : Kept b b'' :=
  ⟨h.toMeasured.trans h'.toMeasured, h'.pipe.trans h.pipe⟩

/-- The sender waits for a new round. -/
theorem of_startRound (h : b'.meter = b.startRound.meter) : Kept b b' := by
  have hsame : Kept b b := of_eq rfl
  have hround : Kept b b.startRound := ⟨{ hsame with next := .inr rfl }, .inl rfl⟩
  exact hround.trans (of_eq h)

/-- Nothing is measured at first. -/
theorem from_eq (h : Kept b' b'') (heq : b'.meter = b.meter) : Kept b b'' :=
  (of_eq heq).trans h

end Kept

variable (b : BBRv3Sender)

/-! ## the pieces of the model update -/

theorem kept_updateGains : Kept b b.updateGains := by
  unfold updateGains
  split <;> exact .of_eq rfl

theorem kept_bdp (bw : Nat) (gain : ℚ) : Kept b (b.bdp bw gain).2 := by
  unfold bdp
  split <;> exact .of_eq rfl

theorem kept_inflight (gain : ℚ) : Kept b (b.inflight gain).2 :=
  (kept_bdp b _ _).trans (.of_eq rfl)

theorem kept_enterDrain : Kept b b.enterDrain :=
  .from_eq (kept_updateGains { b with state := .drain }) rfl

theorem kept_enterStartup : Kept b b.enterStartup :=
  .from_eq (kept_updateGains { b with state := .startup }) rfl

variable (now : Time)

theorem kept_startProbeBwDown : Kept b (b.startProbeBwDown now) :=
  .of_startRound rfl

theorem kept_startProbeBwRefill : Kept b b.startProbeBwRefill :=
  .of_startRound rfl

theorem kept_raiseInflightHiSlope : Kept b b.raiseInflightHiSlope := by
  unfold raiseInflightHiSlope
  dsimp only
  split <;> split <;> exact .of_eq rfl

theorem kept_startProbeBwUp (h : b.fullPipe.isFilledPipe = true) :
    Kept b (b.startProbeBwUp now) := by
  have hround : Kept b b.startRound := .of_startRound rfl
  unfold startProbeBwUp
  dsimp only
  refine .trans ?_ (kept_raiseInflightHiSlope _)
  exact ⟨{ hround.toMeasured with }, .inr ⟨h, h⟩⟩

theorem measured_checkStartupFullBandwidth : Measured b b.checkStartupFullBandwidth := by
  have h : Measured b b := (Kept.of_eq rfl).toMeasured
  unfold checkStartupFullBandwidth
  split
  · exact h
  · split <;> exact { h with }

theorem measured_checkStartupDone : Measured b b.checkStartupDone := by
  unfold checkStartupDone
  dsimp only
  split
  · exact (measured_checkStartupFullBandwidth b).trans (kept_enterDrain _).toMeasured
  · exact measured_checkStartupFullBandwidth b

variable (bytesInFlight : Nat)

theorem kept_checkDrain (clock : Time) : Kept b (b.checkDrain bytesInFlight clock) := by
  unfold checkDrain
  split
  · dsimp only
    split
    · exact (kept_inflight b 1).trans (kept_startProbeBwDown _ clock)
    · exact kept_inflight b 1
  · exact .of_eq rfl

theorem kept_checkTimeToProbeBw : Kept b (b.checkTimeToProbeBw now).2 := by
  unfold checkTimeToProbeBw
  split
  · exact kept_startProbeBwRefill b
  · exact .of_eq rfl

theorem kept_checkTimeToCruise : Kept b (b.checkTimeToCruise bytesInFlight).2 := by
  unfold checkTimeToCruise
  split
  · exact .of_eq rfl
  · exact kept_inflight b 1

theorem kept_advanceMaxBwFilter : Kept b b.advanceMaxBwFilter := by
  unfold advanceMaxBwFilter
  dsimp only
  split
  · exact .of_eq rfl
  · exact ⟨{ (Kept.of_eq (rfl : b.meter = b.meter)).toMeasured with newest := .inr rfl }, .inl rfl⟩

theorem kept_stopProbing : Kept b b.stopProbing := by
  unfold stopProbing
  split
  · dsimp only
    split
    · exact .from_eq (kept_advanceMaxBwFilter _) rfl
    · exact .of_eq rfl
  · exact .of_eq rfl

theorem kept_probeInflightHiUpward (isCwndLimited : Bool) :
    Kept b (b.probeInflightHiUpward isCwndLimited) := by
  unfold probeInflightHiUpward
  split
  · exact .of_eq rfl
  · dsimp only
    split <;> split
    · exact .from_eq (kept_raiseInflightHiSlope _) rfl
    · exact .of_eq rfl
    · exact .from_eq (kept_raiseInflightHiSlope _) rfl
    · exact .of_eq rfl

theorem kept_startFeedback : Kept b b.startFeedback := by
  unfold startFeedback
  split <;> exact .of_eq rfl

theorem kept_adaptUpperBounds : Kept b b.adaptUpperBounds := by
  have h := (kept_startFeedback b).trans (kept_stopProbing _)
  unfold adaptUpperBounds
  dsimp only
  split
  · exact h
  · split
    · exact h.trans (kept_probeInflightHiUpward _ true)
    · exact h

theorem kept_updateProbeBwCyclePhase (bytesInFlight : Nat) :
    Kept b (b.updateProbeBwCyclePhase now bytesInFlight) := by
  unfold updateProbeBwCyclePhase
  split
  · exact .of_eq rfl
  · rename_i hfilled
    have h := kept_adaptUpperBounds b
    have ha := h.pipe.isFilledPipe.trans (not_not.mp hfilled)
    dsimp only
    generalize b.adaptUpperBounds = a at h ha ⊢
    split
    · have hprobe := h.trans (kept_checkTimeToProbeBw a now)
      split
      · exact hprobe
      · have hcruise := hprobe.trans (kept_checkTimeToCruise _ bytesInFlight)
        split
        · exact hcruise.trans (.of_eq rfl)
        · exact hcruise
    · exact h.trans (kept_checkTimeToProbeBw a now)
    · split
      · exact h.trans (.from_eq (kept_startProbeBwUp { a with bwProbeSamples := true } now ha) rfl)
      · exact h
    · split
      · have hin := h.trans (kept_inflight a a.pacingGain)
        split
        · exact hin.trans (kept_startProbeBwDown _ now)
        · exact hin
      · exact h
    · exact h

/-- The sender after the first check of the pipe of an ack. -/
def checkPipe : BBRv3Sender :=
  b.updateLatestDeliverySignals.updateCongestionSignals.updateAckAggregation.checkStartupDone

theorem measured_checkPipe : Measured b b.checkPipe := by
  have h : Kept b b.updateLatestDeliverySignals.updateCongestionSignals.updateAckAggregation :=
    .of_eq rfl
  exact h.toMeasured.trans (measured_checkStartupDone _)

theorem kept_updateModel (bytesInFlight : Nat) (clock : Time) :
    Kept b.checkPipe (b.updateModel now bytesInFlight clock) := by
  unfold updateModel
  dsimp only
  rw [← checkPipe]
  exact (kept_checkDrain b.checkPipe bytesInFlight clock).trans (kept_updateProbeBwCyclePhase _ _ _)

theorem kept_updateMinRtt : Kept b (b.updateMinRtt now) := by
  unfold updateMinRtt
  dsimp only
  split <;> exact .of_eq rfl

theorem kept_saveCwnd : Kept b b.saveCwnd := by
  unfold saveCwnd
  split
  · exact .of_eq rfl
  · split <;> exact .of_eq rfl

theorem kept_restoreCwnd : Kept b b.restoreCwnd := by
  unfold restoreCwnd
  split <;> exact .of_eq rfl

theorem kept_exitProbeRtt : Kept b (b.exitProbeRtt now) := by
  unfold exitProbeRtt
  dsimp only
  split
  · exact .from_eq ((kept_startProbeBwDown _ now).trans (.of_eq rfl)) rfl
  · exact .from_eq (kept_enterStartup _) rfl

theorem kept_checkProbeRttDone : Kept b (b.checkProbeRttDone now) := by
  unfold checkProbeRttDone
  split
  · exact .from_eq ((kept_restoreCwnd _).trans (kept_exitProbeRtt _ now)) rfl
  · exact .of_eq rfl

theorem kept_handleProbeRtt (bytesInFlight : Nat) :
    Kept b (b.handleProbeRtt now bytesInFlight) := by
  unfold handleProbeRtt
  split
  · dsimp only
    split <;> split
    · exact .from_eq (kept_checkProbeRttDone _ now) rfl
    · exact .of_eq rfl
    · exact kept_checkProbeRttDone b now
    · exact .of_eq rfl
  · have h : Kept b b.probeRttCwnd.2 := kept_bdp b _ _
    dsimp only
    split
    · exact h.trans (.of_startRound rfl)
    · exact h

theorem kept_beginProbeRtt : Kept b b.beginProbeRtt := by
  have h : Kept b b.enterProbeRtt.saveCwnd :=
    .trans (.from_eq (kept_updateGains { b with state := .probeRTT }) rfl)
      (kept_saveCwnd _)
  exact h.trans (.of_startRound rfl)

theorem kept_checkProbeRtt (bytesInFlight : Nat) : Kept b (b.checkProbeRtt now bytesInFlight) := by
  unfold checkProbeRtt
  dsimp only
  split <;> split
  · exact (kept_beginProbeRtt b).trans (kept_handleProbeRtt _ _ _)
  · exact kept_beginProbeRtt b
  · exact kept_handleProbeRtt b _ _
  · exact .of_eq rfl

theorem kept_updateModelAndState (bytesInFlight : Nat) (clock : Time) :
    Kept b.checkPipe (b.updateModelAndState now bytesInFlight clock) := by
  have hmodel := (kept_updateModel b now bytesInFlight clock).trans
    (kept_updateMinRtt _ now)
  have hprobe := hmodel.trans (kept_checkProbeRtt _ now bytesInFlight)
  unfold updateModelAndState
  dsimp only
  generalize ((b.updateModel now bytesInFlight clock).updateMinRtt now).checkProbeRtt now
    bytesInFlight = a at hprobe ⊢
  exact hprobe.trans (.of_eq rfl)

theorem kept_updateControlParameters : Kept b b.updateControlParameters := by
  unfold updateControlParameters setPacingRate setPacingRateWithGain setSendQuantum
  dsimp only
  split <;> exact .of_eq rfl

theorem kept_setCwnd : Kept b (b.setCwnd bytesInFlight) := by
  have hmax : Kept b b.updateMaxInflight := (kept_bdp b _ _).trans (.of_eq rfl)
  have hmodulate : ∀ a : BBRv3Sender, Kept a (a.modulateCwndForRecovery bytesInFlight) := by
    intro a
    unfold modulateCwndForRecovery
    split
    · split <;> exact .of_eq rfl
    · exact .of_eq rfl
  have hfloor : ∀ a : BBRv3Sender, Kept a a.floorCwnd := by
    intro a
    unfold floorCwnd
    split <;> exact .of_eq rfl
  have hprobe : ∀ a : BBRv3Sender, Kept a a.boundCwndForProbeRtt := by
    intro a
    have h : Kept a a.probeRttCwnd.2 := kept_bdp a _ _
    unfold boundCwndForProbeRtt
    split
    · dsimp only
      split
      · exact h.trans (.of_eq rfl)
      · exact h
    · exact .of_eq rfl
  have hmodel : ∀ a : BBRv3Sender, Kept a a.boundCwndForModel := by
    intro a
    unfold boundCwndForModel
    split <;> exact .of_eq rfl
  exact (((hmax.trans (hmodulate _)).trans (hfloor _)).trans (hprobe _)).trans (hmodel _)

variable (prior : Nat)

theorem kept_updateOnAck (t clock : Time) : Kept b.checkPipe (b.updateOnAck prior t clock) :=
  (((kept_updateModelAndState b t prior clock).trans (kept_updateGains _)).trans
    (kept_updateControlParameters _)).trans (kept_setCwnd _ prior)

theorem measured_updateOnAck (t clock : Time) : Measured b (b.updateOnAck prior t clock) :=
  (measured_checkPipe b).trans (kept_updateOnAck b prior t clock).toMeasured

theorem kept_leaveDrain (clock : Time) : Kept b (b.leaveDrain prior clock) := by
  unfold leaveDrain
  split
  · dsimp only
    split
    · exact (kept_inflight b 1).trans (kept_startProbeBwDown _ clock)
    · exact kept_inflight b 1
  · exact .of_eq rfl

theorem kept_checkMinRttAge (t : Time) : Kept b (b.checkMinRttAge t) := by
  unfold checkMinRttAge
  split <;> exact .of_eq rfl

theorem kept_exitProbeRTTFromAbove : Kept b (b.exitProbeRTTFromAbove now) := by
  unfold exitProbeRTTFromAbove
  split
  · exact (kept_startProbeBwDown b now).trans (.of_eq rfl)
  · exact kept_enterStartup b

theorem kept_maybeExitProbeRTT : Kept b (b.maybeExitProbeRTT now) := by
  unfold maybeExitProbeRTT
  split
  · exact kept_exitProbeRTTFromAbove b now
  · exact .of_eq rfl

theorem kept_onCongestionEvent (lost : Nat) (clock : Time) :
    Kept b (b.onCongestionEvent lost clock) := by
  obtain ⟨_, -, ⟨-, -, he⟩ | he⟩ := b.onCongestionEvent_cases lost clock
  · rw [he]
    exact .of_startRound rfl
  · rw [he]
    exact .of_eq rfl

theorem kept_onPacketSent (sentTime : Time) (n bytes : Nat) :
    Kept b (b.onPacketSent sentTime n bytes) := by
  obtain ⟨next, he⟩ := b.onPacketSent_eq sentTime n bytes
  rw [he]
  exact .of_eq rfl

/-! ## rounds -/

/-- The round that the sender waits for has been delivered. -/
def Started : Prop := b.round.nextRoundDelivered ≤ b.delivered

variable {b}

theorem Measured.started {b' : BBRv3Sender} (h : Measured b b') (hs : b.Started) : b'.Started := by
  unfold Started at hs ⊢
  rw [h.delivered]
  obtain heq | heq := h.next
  · rw [heq]
    exact hs
  · rw [heq]

theorem le_foldl_delivered (infos : List Bbrv3AckInfo) (acc : Nat) :
    acc ≤ infos.foldl (fun acc info => if info.delivered > acc then info.delivered else acc) acc ∧
      ∀ info ∈ infos, info.delivered ≤
        infos.foldl (fun acc info => if info.delivered > acc then info.delivered else acc) acc := by
  induction infos generalizing acc with
  | nil => exact ⟨Nat.le_refl acc, fun _ hmem => absurd hmem List.not_mem_nil⟩
  | cons info infos ih =>
    obtain ⟨hacc, hrest⟩ := ih (if info.delivered > acc then info.delivered else acc)
    rw [List.foldl_cons]
    have hge : acc ≤ (if info.delivered > acc then info.delivered else acc) ∧
        info.delivered ≤ if info.delivered > acc then info.delivered else acc := by
      split <;> omega
    refine ⟨hge.1.trans hacc, fun info' hmem => ?_⟩
    obtain rfl | hmem := List.mem_cons.mp hmem
    · exact hge.2.trans hacc
    · exact hrest info' hmem

theorem le_maxDelivered {info : Bbrv3AckInfo} (h : info ∈ b.ackinfo) :
    info.delivered ≤ b.maxDelivered := (le_foldl_delivered b.ackinfo 0).2 info h

variable (b)

theorem recordAck_measures (n bytes : Nat) (sentTime t : Time) :
    (b.recordAck n bytes sentTime t).round = b.round ∧
      (b.recordAck n bytes sentTime t).delivered = b.delivered + bytes ∧
      (b.recordAck n bytes sentTime t).maxBw = b.maxBw ∧
      (b.recordAck n bytes sentTime t).maxBwFilter = b.maxBwFilter ∧
      (b.recordAck n bytes sentTime t).fullPipe = b.fullPipe ∧
      (b.recordAck n bytes sentTime t).config = b.config ∧
      ⟨bytes, t, b.delivered + bytes⟩ ∈ (b.recordAck n bytes sentTime t).ackinfo := by
  have hlast : ∀ (infos : List Bbrv3AckInfo) (info : Bbrv3AckInfo),
      info ∈ if (infos ++ [info]).length > 16 then
        (infos ++ [info]).drop ((infos ++ [info]).length - 16) else infos ++ [info] := by
    intro infos info
    split
    · rw [List.drop_append_of_le_length (by simp)]
      simp
    · simp
  unfold recordAck
  dsimp only
  split
  · exact ⟨rfl, rfl, rfl, rfl, rfl, rfl, hlast _ _⟩
  · exact ⟨rfl, rfl, rfl, rfl, rfl, rfl, hlast _ _⟩

/-- What an arrived ack measures. -/
structure Arrived (a : BBRv3Sender) (bytes : Nat) (t : Time) : Prop where
  config : a.config = b.config
  roundCount : a.round.roundCount = b.round.roundCount
  delivered : a.delivered = b.delivered + bytes
  maxBw : a.maxBw = b.maxBw
  newest : a.maxBwFilter.bw1 = b.maxBwFilter.bw1 ∨ a.maxBwFilter.bw1 = 0
  pipe : a.fullPipe.Same b.fullPipe
  next : a.round.nextRoundDelivered = b.round.nextRoundDelivered ∨
    a.round.nextRoundDelivered = b.delivered + bytes
  ackinfo : ⟨bytes, t, b.delivered + bytes⟩ ∈ a.ackinfo

theorem arrived_ackArrived (n bytes : Nat) (sentTime t : Time) :
    b.Arrived (b.ackArrived n bytes sentTime t) bytes t := by
  obtain ⟨hround, hdelivered, hmaxBw, hfilter, hpipe, hconfig, hlast⟩ :=
    recordAck_measures b n bytes sentTime t
  have h : Kept _ (b.ackArrived n bytes sentTime t) :=
    kept_maybeExitProbeRTT (b.recordAck n bytes sentTime t) t
  constructor
  · rw [h.config, hconfig]
  · rw [h.roundCount, hround]
  · rw [h.delivered, hdelivered]
  · rw [h.maxBw, hmaxBw]
  · rw [← hfilter]
    exact h.newest
  · rw [← hpipe]
    exact h.pipe
  · rw [← hround, ← hdelivered]
    exact h.next
  · rw [h.ackinfo]
    exact hlast

variable {b}

variable {a : BBRv3Sender} {bytes : Nat} {t : Time}

theorem Arrived.started (h : b.Arrived a bytes t) (hs : b.Started) : a.Started := by
  unfold Started at hs ⊢
  rw [h.delivered]
  obtain heq | heq := h.next <;> omega

/-- The ack that has just been recorded ends the round that the sender waits for. -/
theorem Arrived.le_maxDelivered (h : b.Arrived a bytes t) (hs : b.Started) :
    a.maxDelivered ≥ a.round.nextRoundDelivered := by
  have hmax := BBRv3Sender.le_maxDelivered h.ackinfo
  have hstarted := h.started hs
  unfold Started at hstarted
  rw [h.delivered] at hstarted
  exact hstarted.trans hmax

/-- **Rounds**: the ack that has just been recorded starts a round. -/
theorem updateRound_of_arrived (h : b.Arrived a bytes t) (hs : b.Started) :
    a.updateRound.round = {
      roundCount := b.round.roundCount + 1
      isRoundStart := true
      nextRoundDelivered := a.delivered } := by
  unfold updateRound
  rw [if_pos (h.le_maxDelivered hs), ← h.roundCount]
  rfl

theorem updateRound_frame (a : BBRv3Sender) :
    a.updateRound.delivered = a.delivered ∧ a.updateRound.ackinfo = a.ackinfo ∧
      a.updateRound.maxBw = a.maxBw ∧ a.updateRound.bw = a.bw ∧
      a.updateRound.maxBwFilter = a.maxBwFilter ∧ a.updateRound.fullPipe = a.fullPipe ∧
      a.updateRound.config = a.config := by
  unfold updateRound
  split <;> exact ⟨rfl, rfl, rfl, rfl, rfl, rfl, rfl⟩

theorem sampleAck_frame (a : BBRv3Sender) (t : Time) :
    (a.sampleAck t).round = a.updateRound.round ∧ (a.sampleAck t).delivered = a.delivered ∧
      (a.sampleAck t).fullPipe = a.fullPipe ∧ (a.sampleAck t).config = a.config := by
  obtain ⟨hdelivered, -, -, -, -, hpipe, hconfig⟩ := updateRound_frame a
  unfold sampleAck
  dsimp only
  split <;> exact ⟨rfl, hdelivered, hpipe, hconfig⟩

theorem sampleAck_round (h : b.Arrived a bytes t) (hs : b.Started) :
    (a.sampleAck t).round = {
      roundCount := b.round.roundCount + 1
      isRoundStart := true
      nextRoundDelivered := a.delivered } := by
  rw [(sampleAck_frame a t).1]
  exact updateRound_of_arrived h hs

/-- A round start ends packet conservation. -/
theorem packetConservation_sampleAck (h : b.Arrived a bytes t) (hs : b.Started) :
    (a.sampleAck t).packetConservation = false := by
  have hround : a.updateRound.packetConservation = false := by
    unfold updateRound
    rw [if_pos (h.le_maxDelivered hs)]
  unfold sampleAck
  dsimp only
  split <;> exact hround

theorem roundTripPassed_sampleAck (h : b.Arrived a bytes t) (hs : b.Started) :
    (a.sampleAck t).roundTripPassed t = true := by
  have hstart : (a.sampleAck t).round.isRoundStart = true := by
    rw [sampleAck_round h hs]
  unfold roundTripPassed
  rw [hstart, Bool.or_true]

variable (b)

/-- The ack is of a packet that the sender knows, and it is not held in ProbeRTT. -/
def Heard (n bytes : Nat) (t : Time) (sentTime : Time) : Prop :=
  b.sentTimes n = some sentTime ∧ (b.ackArrived n bytes sentTime t).state ≠ .probeRTT

/-- The sender after an ack that is not heard: nothing has changed, or ProbeRTT has recorded it. -/
def Unheard (b' : BBRv3Sender) : Prop :=
  ∃ sentTimes lastRtt lastTime minRtt minRttStamp delivered ackinfo,
    b' = { b with
      sentTimes := sentTimes, lastNewMinRTT := lastRtt, lastNewMinRTTTime := lastTime
      minRtt := minRtt, minRttStamp := minRttStamp, delivered := delivered, ackinfo := ackinfo } ∧
    b.delivered ≤ delivered ∧ (b.state ≠ .probeRTT → b' = b)

theorem maybeExitProbeRTT_of_ne {b : BBRv3Sender} (h : b.state ≠ .probeRTT) (now : Time) :
    b.maybeExitProbeRTT now = b := by
  unfold maybeExitProbeRTT
  rw [if_neg (fun hexit => h hexit.1)]

theorem state_recordAck (b : BBRv3Sender) (n bytes : Nat) (sentTime t : Time) :
    (b.recordAck n bytes sentTime t).state = b.state := by
  unfold recordAck
  dsimp only
  split <;> rfl

theorem unheard_held {n bytes : Nat} {sentTime t : Time}
    (h : (b.ackArrived n bytes sentTime t).state = .probeRTT) :
    b.Unheard (b.ackArrived n bytes sentTime t) := by
  have hstay : b.ackArrived n bytes sentTime t = b.recordAck n bytes sentTime t := by
    unfold ackArrived maybeExitProbeRTT at h ⊢
    split at h
    · have hleft := congrArg Core.inProbeRTT
        (core_exitProbeRTTFromAbove (b.recordAck n bytes sentTime t) t)
      rw [(core_inProbeRTT _).mpr h] at hleft
      contradiction
    · next hno => rw [if_neg hno]
  have hst : b.state = .probeRTT := by
    rw [← state_recordAck b n bytes sentTime t, ← hstay, h]
  rw [hstay]
  unfold recordAck
  dsimp only
  split <;> exact ⟨_, _, _, _, _, _, _, rfl, Nat.le_add_right _ _, fun hne => absurd hst hne⟩

/-- **Acks of a sender that has started**: an ack is not heard, or it runs the whole model update. -/
theorem onPacketAcked_of_started (hs : b.Started) (n bytes prior : Nat) (t clock : Time) :
    ((∀ sentTime, ¬ b.Heard n bytes t sentTime) ∧
      b.Unheard (b.onPacketAcked n bytes prior t clock)) ∨
    (∃ sentTime, b.Heard n bytes t sentTime ∧
      b.onPacketAcked n bytes prior t clock =
        (b.ackSampled n bytes t).processAck prior t clock) := by
  unfold onPacketAcked ackSampled
  cases hn : b.sentTimes n with
  | none =>
    refine .inl ⟨fun sentTime h => ?_, _, _, _, _, _, _, _, rfl, Nat.le_refl _, fun _ => rfl⟩
    rw [h.1] at hn
    cases hn
  | some sentTime =>
    dsimp only
    by_cases hst : (b.ackArrived n bytes sentTime t).state = .probeRTT
    · rw [if_pos hst]
      refine .inl ⟨fun sentTime' h => h.2 ?_, unheard_held b hst⟩
      rw [h.1, Option.some.injEq] at hn
      rw [hn]
      exact hst
    · rw [if_neg hst,
        if_pos (roundTripPassed_sampleAck (arrived_ackArrived b n bytes sentTime t) hs)]
      exact .inr ⟨sentTime, ⟨hn, hst⟩, rfl⟩

/-- What leaving recovery does not touch. -/
theorem leaveRecovery_frame :
    b.leaveRecovery.round = b.round ∧ b.leaveRecovery.delivered = b.delivered ∧
      b.leaveRecovery.config = b.config ∧ b.leaveRecovery.fullPipe = b.fullPipe ∧
      b.leaveRecovery.maxBw = b.maxBw ∧ b.leaveRecovery.maxBwFilter = b.maxBwFilter := by
  unfold leaveRecovery exitRecovery restoreCwnd
  split
  · split <;> exact ⟨rfl, rfl, rfl, rfl, rfl, rfl⟩
  · exact ⟨rfl, rfl, rfl, rfl, rfl, rfl⟩

/-- What the model update of an ack that is heard finds. -/
structure Sampled (s : BBRv3Sender) (bytes : Nat) : Prop where
  config : s.config = b.config
  round : s.round = {
    roundCount := b.round.roundCount + 1
    isRoundStart := true
    nextRoundDelivered := b.delivered + bytes }
  delivered : s.delivered = b.delivered + bytes
  pipe : s.fullPipe.Same b.fullPipe

variable {b}

theorem Sampled.started {s : BBRv3Sender} (h : b.Sampled s bytes) : s.Started := by
  unfold Started
  rw [h.round, h.delivered]

theorem ackSampled_eq {n : Nat} {sentTime : Time} (h : b.sentTimes n = some sentTime)
    (bytes : Nat) (t : Time) :
    b.ackSampled n bytes t = ((b.ackArrived n bytes sentTime t).sampleAck t).leaveRecovery := by
  unfold ackSampled
  rw [h]

theorem sampled_of_heard (hs : b.Started) {n bytes : Nat} {t sentTime : Time}
    (h : b.Heard n bytes t sentTime) : b.Sampled (b.ackSampled n bytes t) bytes := by
  have ha := arrived_ackArrived b n bytes sentTime t
  obtain ⟨-, hdelivered, hpipe, hconfig⟩ := sampleAck_frame (b.ackArrived n bytes sentTime t) t
  obtain ⟨hround', hdelivered', hconfig', hpipe', -⟩ :=
    leaveRecovery_frame ((b.ackArrived n bytes sentTime t).sampleAck t)
  rw [ackSampled_eq h.1]
  constructor
  · rw [hconfig', hconfig, ha.config]
  · rw [hround', sampleAck_round ha hs, ha.delivered]
  · rw [hdelivered', hdelivered, ha.delivered]
  · rw [hpipe', hpipe]
    exact ha.pipe

theorem Heard.state (hs : b.Started) {n bytes : Nat} {t sentTime : Time}
    (h : b.Heard n bytes t sentTime) : (b.ackSampled n bytes t).state ≠ .probeRTT := by
  refine state_ackSampled b n bytes t ?_
  have hpassed := roundTripPassed_sampleAck (arrived_ackArrived b n bytes sentTime t) hs
  unfold ackUpdates
  rw [h.1]
  simp [h.2, hpassed]

variable (b)

/-- What the rest of the ack does with the measurements: only `maxBw` may still change, when the
filter is moved. -/
theorem processAck_measures (prior : Nat) (t clock : Time) :
    (b.processAck prior t clock).round.roundCount = b.round.roundCount ∧
      (b.processAck prior t clock).delivered = b.delivered ∧
      (b.processAck prior t clock).config = b.config ∧
      (b.Started → (b.processAck prior t clock).Started) := by
  have h := ((measured_updateOnAck b prior t clock).trans (measured_checkStartupDone _)).trans
    (kept_leaveDrain _ prior clock).toMeasured
  have hfilter : ∀ a : BBRv3Sender, a.updateMaxBwFilter.round = a.round ∧
      a.updateMaxBwFilter.delivered = a.delivered ∧ a.updateMaxBwFilter.config = a.config := by
    intro a
    unfold updateMaxBwFilter
    split <;> exact ⟨rfl, rfl, rfl⟩
  unfold processAck
  dsimp only
  generalize ((b.updateOnAck prior t clock).checkStartupDone).leaveDrain prior clock = a at h ⊢
  have hage := kept_checkMinRttAge a.updateMaxBwFilter t
  refine ⟨?_, ?_, ?_, fun hs => hage.started ?_⟩
  · rw [hage.roundCount, (hfilter a).1, h.roundCount]
  · rw [hage.delivered, (hfilter a).2.1, h.delivered]
  · rw [hage.config, (hfilter a).2.2, h.config]
  · have hstarted := h.started hs
    unfold Started at hstarted ⊢
    rwa [(hfilter a).1, (hfilter a).2.1]

theorem roundCount_lt_iff (hs : b.Started) (n bytes prior : Nat) (t clock : Time) :
    b.round.roundCount < (b.onPacketAcked n bytes prior t clock).round.roundCount ↔
      ∃ sentTime, b.Heard n bytes t sentTime := by
  obtain ⟨hno, _, _, _, _, _, _, _, he, -⟩ | ⟨sentTime, hheard, he⟩ :=
    onPacketAcked_of_started b hs n bytes prior t clock
  · rw [he]
    exact ⟨fun h => absurd h (Nat.lt_irrefl _), fun ⟨_, h⟩ => absurd h (hno _)⟩
  · refine ⟨fun _ => ⟨sentTime, hheard⟩, fun _ => ?_⟩
    rw [he, (processAck_measures _ prior t clock).1, (sampled_of_heard hs hheard).round]
    exact Nat.lt_succ_self _

variable (mds : Nat)

/-- The bandwidth that a new sender assumes. -/
theorem maxBw_newBBRv3Sender (now initNow : Time) :
    (newBBRv3Sender mds now initNow).maxBw = 277 * (newConfig mds).maxDatagramSize := by
  rw [← truncate_natCast (277 * _)]
  change truncate (startupPacingGain * (((10 * (newConfig mds).maxDatagramSize : Nat) : ℚ) /
    seconds (100 * millisecond))) = _
  congr 1
  unfold startupPacingGain seconds millisecond
  push_cast
  ring

theorem maxDatagramSize_newConfig_pos : 0 < (newConfig mds).maxDatagramSize := by
  unfold newConfig
  dsimp only
  split
  · decide
  · omega

theorem started_newBBRv3Sender (now initNow : Time) :
    (newBBRv3Sender mds now initNow).Started := Nat.le_refl _

/-- Every call keeps the sender started. -/
theorem started_step (op : Op) (hs : b.Started) : (b.step op).Started := by
  cases op with
  | sent sentTime n bytes => exact (kept_onPacketSent b sentTime n bytes).started hs
  | acked n bytes prior t clock =>
    obtain ⟨-, _, _, _, _, _, _, _, he, hle, -⟩ | ⟨sentTime, hheard, he⟩ :=
      onPacketAcked_of_started b hs n bytes prior t clock
    · simp only [step, he]
      exact Nat.le_trans hs hle
    · simp only [step, he]
      exact (processAck_measures _ prior t clock).2.2.2 (sampled_of_heard hs hheard).started
  | lost lost clock => exact (kept_onCongestionEvent b lost clock).started hs
  | pacing now => exact (kept_maybeExitProbeRTT b now).started hs
  | timeout retransmitted now initNow =>
    simp only [step, onRetransmissionTimeout]
    split
    · exact started_newBBRv3Sender b.maxDatagramSize now initNow
    · exact hs
  | setMaxDatagramSize size => exact hs

end BBRv3Sender

end MoqQuic
