import MoqQuic.Congestion.Bbrv3.Frame

/-!
# MoqQuic.Congestion.Bbrv3.Ack

What an ack does to the core of the sender.

The core has a small machine of its own, `Core.fresh` and `Core.expire`: an ack
that updates the model either comes within `probeRttInterval` of
`probeRttMinStamp`, or finds the min-RTT estimate expired and enters ProbeRTT.
`core_updateOnAck` shows that the sender simulates this machine, so the window
and the ProbeRTT theorems are proved of the core and hold of the sender.
-/

namespace MoqQuic.BBRv3Sender

namespace Core

/-- The min-RTT estimate is older than `probeRttInterval` at `now`. -/
def Expired (c : Core) (now : Time) : Prop := now - c.probeRttMinStamp > c.config.probeRttInterval

instance (c : Core) (now : Time) : Decidable (c.Expired now) :=
  inferInstanceAs (Decidable (_ > _))

/-- The window that ProbeRTT allows at the bandwidth `bw`: half the
bandwidth-delay product at the initial RTT. -/
def probeWindow (c : Core) (bw : Nat) : Nat :=
  truncate (1 / 2 * (bw * seconds c.config.initialRtt))

/-- The only cap that is left when no model bound is in force. -/
def cap (c : Core) : Nat := max maxUint64 c.config.minCwnd

/-- The window before the bounds: packet conservation, else the floor. -/
def baseCwnd (c : Core) (bytesInFlight : Nat) : Nat :=
  if c.packetConservation then max c.cwnd (bytesInFlight + c.config.maxDatagramSize)
  else max c.cwnd c.config.minCwnd

theorem le_baseCwnd (c : Core) (bytesInFlight : Nat) : c.cwnd ≤ c.baseCwnd bytesInFlight := by
  unfold baseCwnd
  split <;> omega

/-- The model update of an ack while the min-RTT estimate is fresh. -/
def fresh (c : Core) (bytesInFlight : Nat) : Core :=
  { c with
    probeRttExpired := false
    bw := min c.maxBw maxUint64
    cwnd := min (c.baseCwnd bytesInFlight) c.cap }

/-- The model update of an ack that finds the min-RTT estimate expired: it
enters ProbeRTT, and only an ack with few enough bytes in flight stamps the end
of the episode. -/
def expire (c : Core) (bytesInFlight : Nat) (now : Time) : Core :=
  { c with
    inProbeRTT := true
    probeRttExpired := true
    minRtt := c.config.initialRtt
    minRttStamp := now
    priorCwnd := max c.priorCwnd c.cwnd
    probeRttDoneStamp :=
      if bytesInFlight ≤ c.probeWindow c.bw then now + c.config.probeRttDuration else 0
    bw := min c.maxBw maxUint64
    cwnd := min (min (c.baseCwnd bytesInFlight) (c.probeWindow (min c.maxBw maxUint64))) c.cap }

end Core

variable (b : BBRv3Sender)

/-! ## the window -/

theorem modelCap_of_unbounded (hu : b.core.Unbounded) : b.modelCap = b.core.cap := by
  have hhi : b.inflightHi = maxUint64 := hu.inflightHi
  have hlo : b.inflightLo = maxUint64 := hu.inflightLo
  unfold modelCap inflightWithHeadroom Core.cap
  rw [hhi, hlo]
  split
  · simp [core]
  · split <;> simp [core]

theorem core_boundCwndForModel (hu : b.core.Unbounded) :
    b.boundCwndForModel.core = { b.core with cwnd := min b.core.cwnd b.core.cap } := by
  unfold boundCwndForModel
  rw [modelCap_of_unbounded b hu]
  exact congrArg core (ite_gt_eq_min (fun w => { b with cwnd := w }) b.cwnd b.core.cap)

variable (bytesInFlight : Nat)

/-- Packet conservation and the floor exclude each other. -/
theorem core_floorCwnd :
    (b.modulateCwndForRecovery bytesInFlight).floorCwnd.core =
      { b.core with cwnd := b.core.baseCwnd bytesInFlight } := by
  unfold modulateCwndForRecovery Core.baseCwnd
  by_cases hp : b.packetConservation
  · have hp' : b.core.packetConservation = true := hp
    have hmax := ite_lt_eq_max (fun w => { b with cwnd := w }) b.cwnd
      (bytesInFlight + b.config.maxDatagramSize)
    rw [if_pos hp, if_pos hp', hmax, floorCwnd, if_neg (by simp [hp])]
    rfl
  · have hp' : ¬ b.core.packetConservation = true := hp
    have hmax := ite_lt_eq_max (fun w => { b with cwnd := w }) b.cwnd b.config.minCwnd
    rw [if_neg hp, if_neg hp', floorCwnd]
    exact congrArg core ((if_congr (by simp [hp]) rfl rfl).trans hmax)

theorem core_boundCwndForProbeRtt_of_ne (h : b.state ≠ .probeRTT) :
    b.boundCwndForProbeRtt.core = b.core := by
  rw [boundCwndForProbeRtt, if_neg h]

/-- In ProbeRTT, right after the expiry, the limit is half the product at the
initial RTT. -/
theorem core_boundCwndForProbeRtt (h : b.state = .probeRTT) (hg : b.cwndGain = 1 / 2)
    (hrtt : b.minRtt = b.config.initialRtt) (hpos : b.config.initialRtt ≠ 0) :
    b.boundCwndForProbeRtt.core =
      { b.core with cwnd := min b.core.cwnd (b.core.probeWindow b.core.bw) } := by
  have hlim : b.probeRttCwnd.1 = b.core.probeWindow b.core.bw := by
    simp only [probeRttCwnd, bdp, hrtt, hg, if_neg hpos]
    rfl
  have hcore : b.probeRttCwnd.2.core = b.core := core_bdp b _ _
  rw [boundCwndForProbeRtt, if_pos h]
  dsimp only
  rw [hlim, ← hcore]
  exact congrArg core (ite_gt_eq_min (fun w => { b.probeRttCwnd.2 with cwnd := w })
    b.probeRttCwnd.2.cwnd _)

theorem cwndGain_baseCwnd :
    (b.updateMaxInflight.modulateCwndForRecovery bytesInFlight).floorCwnd.cwndGain =
      b.cwndGain := by
  have hbdp : b.updateMaxInflight.cwndGain = b.cwndGain := by
    simp only [updateMaxInflight, quantizationBudget, bdp]
    split <;> rfl
  rw [← hbdp]
  unfold modulateCwndForRecovery floorCwnd
  split
  · split <;> split <;> rfl
  · split <;> rfl

theorem core_setCwnd_fresh (hu : b.core.Unbounded) (hne : b.state ≠ .probeRTT) :
    (b.setCwnd bytesInFlight).core =
      { b.core with cwnd := min (b.core.baseCwnd bytesInFlight) b.core.cap } := by
  have hbase := core_floorCwnd b.updateMaxInflight bytesInFlight
  rw [core_updateMaxInflight] at hbase
  unfold setCwnd
  dsimp only
  generalize (b.updateMaxInflight.modulateCwndForRecovery bytesInFlight).floorCwnd = m at hbase ⊢
  have hne' : m.state ≠ .probeRTT := by
    rw [Ne, ← core_inProbeRTT, hbase]
    simpa [core] using hne
  have hstay := core_boundCwndForProbeRtt_of_ne m hne'
  rw [core_boundCwndForModel _ (by rw [hstay, hbase]; exact { hu with }), hstay, hbase]
  rfl

theorem core_setCwnd_probeRtt (hu : b.core.Unbounded)
    (hst : b.state = .probeRTT) (hg : b.cwndGain = 1 / 2) (hrtt : b.minRtt = b.config.initialRtt)
    (hpos : b.config.initialRtt ≠ 0) :
    (b.setCwnd bytesInFlight).core =
      { b.core with
        cwnd := min (min (b.core.baseCwnd bytesInFlight) (b.core.probeWindow b.core.bw))
          b.core.cap } := by
  have hbase := core_floorCwnd b.updateMaxInflight bytesInFlight
  have hgain := cwndGain_baseCwnd b bytesInFlight
  rw [core_updateMaxInflight] at hbase
  unfold setCwnd
  dsimp only
  generalize (b.updateMaxInflight.modulateCwndForRecovery bytesInFlight).floorCwnd = m
    at hbase hgain ⊢
  have hst' : m.state = .probeRTT := by
    rw [← core_inProbeRTT, hbase]
    simpa [core] using hst
  have hcfg : m.config = b.config := congrArg Core.config hbase
  have hrtt' : m.minRtt = m.config.initialRtt := by
    rw [show m.minRtt = b.minRtt from congrArg Core.minRtt hbase, hcfg, hrtt]
  have hlim := core_boundCwndForProbeRtt m hst' (hgain.trans hg) hrtt' (by rw [hcfg]; exact hpos)
  rw [core_boundCwndForModel _ (by rw [hlim, hbase]; exact { hu with }), hlim, hbase]
  rfl

/-! ## the min-RTT estimate and ProbeRTT -/

variable (now : Time)

theorem core_updateMinRtt_fresh (hexp : ¬ b.core.Expired now) (hrtt : b.minRtt ≠ 0) :
    (b.updateMinRtt now).core = { b.core with probeRttExpired := false } := by
  have hflag : decide (now - b.probeRttMinStamp > b.config.probeRttInterval) = false :=
    decide_eq_false hexp
  simp only [updateMinRtt, hflag, hrtt, false_or, Bool.false_eq_true, if_false]
  rfl

theorem core_updateMinRtt_expired (hexp : b.core.Expired now) :
    (b.updateMinRtt now).core =
      { b.core with
        probeRttExpired := true, minRtt := b.core.config.initialRtt, minRttStamp := now } := by
  have hflag : decide (now - b.probeRttMinStamp > b.config.probeRttInterval) = true :=
    decide_eq_true hexp
  simp only [updateMinRtt, hflag, or_true, if_true]
  rfl

/-- The entry runs `saveCwnd` after the state has become ProbeRTT. -/
theorem core_beginProbeRtt :
    b.beginProbeRtt.core =
      { b.core with
        inProbeRTT := true
        priorCwnd := max b.core.priorCwnd b.core.cwnd
        probeRttDoneStamp := 0 } := by
  rw [beginProbeRtt, saveCwnd_eq _ (.inr rfl)]
  rfl

theorem cwndGain_beginProbeRtt : b.beginProbeRtt.cwndGain = 1 / 2 := by
  rw [beginProbeRtt, saveCwnd_eq _ (.inr rfl)]
  rfl

/-- With no end stamped, `handleProbeRtt` stamps one if the bytes in flight fit
the ProbeRTT window. -/
theorem core_handleProbeRtt (bytesInFlight : Nat) (hdone : b.probeRttDoneStamp = 0)
    (hg : b.cwndGain = 1 / 2) (hrtt : b.minRtt = b.config.initialRtt)
    (hpos : b.config.initialRtt ≠ 0) :
    (b.handleProbeRtt now bytesInFlight).core =
      { b.core with probeRttDoneStamp :=
          if bytesInFlight ≤ b.core.probeWindow b.core.bw then
            now + b.core.config.probeRttDuration
          else 0 } := by
  have hlim : b.probeRttCwnd.1 = b.core.probeWindow b.core.bw := by
    simp only [probeRttCwnd, bdp, hrtt, hg, if_neg hpos]
    rfl
  have hcore : b.probeRttCwnd.2.core = b.core := core_bdp b _ _
  have hcfg : b.probeRttCwnd.2.config = b.core.config := congrArg Core.config hcore
  rw [handleProbeRtt, if_neg (by rw [hdone]; decide)]
  dsimp only
  rw [hlim]
  split
  · rw [core_startRound, hcfg, ← hcore]
    rfl
  · rw [hcore, ← hdone]
    rfl

theorem core_checkProbeRtt_fresh (bytesInFlight : Nat) (hne : b.state ≠ .probeRTT)
    (hflag : b.probeRttExpired = false) : b.checkProbeRtt now bytesInFlight = b := by
  have hstay : ¬ (b.state ≠ .probeRTT ∧ b.probeRttExpired ∧ ¬ b.idleRestart) := by
    rw [hflag]
    simp
  unfold checkProbeRtt
  rw [if_neg hstay]
  exact if_neg hne

theorem core_checkProbeRtt_expired (bytesInFlight : Nat) (hne : b.state ≠ .probeRTT)
    (hflag : b.probeRttExpired = true) (hidle : b.idleRestart = false)
    (hrtt : b.minRtt = b.config.initialRtt) (hpos : b.config.initialRtt ≠ 0) :
    (b.checkProbeRtt now bytesInFlight).core =
      { b.core with
        inProbeRTT := true
        priorCwnd := max b.core.priorCwnd b.core.cwnd
        probeRttDoneStamp :=
          if bytesInFlight ≤ b.core.probeWindow b.core.bw then
            now + b.core.config.probeRttDuration
          else 0 } := by
  have hbegin := core_beginProbeRtt b
  have hst : b.beginProbeRtt.state = .probeRTT := by
    rw [← core_inProbeRTT, hbegin]
  have hrtt' : b.beginProbeRtt.minRtt = b.beginProbeRtt.config.initialRtt := by
    rw [show b.beginProbeRtt.minRtt = b.minRtt from congrArg Core.minRtt hbegin,
      show b.beginProbeRtt.config = b.config from congrArg Core.config hbegin, hrtt]
  have hpos' : b.beginProbeRtt.config.initialRtt ≠ 0 := by
    rw [show b.beginProbeRtt.config = b.config from congrArg Core.config hbegin]
    exact hpos
  have henter : b.state ≠ .probeRTT ∧ b.probeRttExpired ∧ ¬ b.idleRestart :=
    ⟨hne, hflag, by simp [hidle]⟩
  unfold checkProbeRtt
  rw [if_pos henter]
  dsimp only
  rw [if_pos hst, core_handleProbeRtt _ _ _ (congrArg Core.probeRttDoneStamp hbegin)
    (cwndGain_beginProbeRtt b) hrtt' hpos', hbegin]
  rfl

/-! ## the model update -/

theorem cwndGain_updateGains (h : b.state = .probeRTT) : b.updateGains.cwndGain = 1 / 2 := by
  rw [updateGains, h]

theorem cwndGain_updateControlParameters : b.updateControlParameters.cwndGain = b.cwndGain := by
  unfold updateControlParameters setPacingRate setPacingRateWithGain setSendQuantum
  dsimp only
  split <;> rfl

/-- The sender when an ack bounds its bandwidth. -/
def probed (prior : Nat) (t clock : Time) : BBRv3Sender :=
  ((b.updateModel t prior clock).updateMinRtt t).checkProbeRtt t prior

section

variable (prior : Nat) (t clock : Time) (hu : b.core.Unbounded) (hne : b.state ≠ .probeRTT)
  (hidle : b.idleRestart = false) (hrtt : b.minRtt ≠ 0) (hpos : b.config.initialRtt ≠ 0)

include hu hne hidle hrtt hpos

/-- An estimate that has expired leads into ProbeRTT. -/
theorem core_probed :
    (b.probed prior t clock).core =
      if b.core.Expired t then
        { b.core.expire prior t with bw := b.core.bw, cwnd := b.core.cwnd }
      else { b.core with probeRttExpired := false } := by
  have hmodel := core_updateModel b t prior clock hu
  unfold probed
  generalize b.updateModel t prior clock = m at hmodel ⊢
  by_cases hexp : b.core.Expired t
  · rw [if_pos hexp]
    have hmin := core_updateMinRtt_expired m t (by rw [hmodel]; exact hexp)
    rw [hmodel] at hmin
    generalize m.updateMinRtt t = r at hmin ⊢
    have hcfg : r.config = b.config := congrArg Core.config hmin
    have hprobe := core_checkProbeRtt_expired r t prior
      (by rw [Ne, ← core_inProbeRTT, hmin, core_inProbeRTT]; exact hne)
      (congrArg Core.probeRttExpired hmin)
      ((congrArg Core.idleRestart hmin).trans hidle)
      ((congrArg Core.minRtt hmin).trans (by rw [hcfg]; rfl))
      (by rw [hcfg]; exact hpos)
    rw [hprobe, hmin]
    rfl
  · rw [if_neg hexp]
    have hmin := core_updateMinRtt_fresh m t (by rw [hmodel]; exact hexp)
      (by rw [show m.minRtt = b.minRtt from congrArg Core.minRtt hmodel]; exact hrtt)
    rw [hmodel] at hmin
    generalize m.updateMinRtt t = r at hmin ⊢
    have hr : r.state ≠ .probeRTT := by
      rw [Ne, ← core_inProbeRTT, hmin, core_inProbeRTT]
      exact hne
    rw [core_checkProbeRtt_fresh r t prior hr (congrArg Core.probeRttExpired hmin), hmin]

/-- No bound is in force when the ack comes to them. -/
theorem unbounded_probed : (b.probed prior t clock).core.Unbounded := by
  rw [core_probed b prior t clock hu hne hidle hrtt hpos]
  split <;> exact { hu with }

/-- **Simulation**: outside ProbeRTT, the model update of an ack acts on the
core as `Core.expire` or `Core.fresh`. -/
theorem core_updateOnAck :
    (b.updateOnAck prior t clock).core =
      if b.core.Expired t then b.core.expire prior t else b.core.fresh prior := by
  have hprobe := core_probed b prior t clock hu hne hidle hrtt hpos
  have hbw := core_boundBwForModel _ (unbounded_probed b prior t clock hu hne hidle hrtt hpos)
  unfold updateOnAck updateModelAndState advanceLatestDeliverySignals
  dsimp only
  rw [← probed]
  generalize b.probed prior t clock = p at hprobe hbw ⊢
  have hmax : p.maxBw = b.maxBw := by
    change p.core.maxBw = b.core.maxBw
    rw [hprobe]
    split <;> rfl
  rw [hprobe, hmax] at hbw
  generalize p.boundBwForModel = q at hbw ⊢
  have hcore : q.updateGains.updateControlParameters.core = q.core := by simp
  by_cases hexp : b.core.Expired t
  · rw [if_pos hexp] at hbw ⊢
    have hst : q.state = .probeRTT := by
      rw [← core_inProbeRTT, hbw]
      rfl
    have hgain : q.updateGains.updateControlParameters.cwndGain = 1 / 2 := by
      rw [cwndGain_updateControlParameters, cwndGain_updateGains q hst]
    generalize q.updateGains.updateControlParameters = u at hcore hgain ⊢
    rw [hbw] at hcore
    have hcfg : u.config = b.config := congrArg Core.config hcore
    rw [core_setCwnd_probeRtt u prior (by rw [hcore]; exact { hu with })
      (by rw [← core_inProbeRTT, hcore]; rfl) hgain
      ((congrArg Core.minRtt hcore).trans (by rw [hcfg]; rfl)) (by rw [hcfg]; exact hpos), hcore]
    rfl
  · rw [if_neg hexp] at hbw ⊢
    generalize q.updateGains.updateControlParameters = u at hcore ⊢
    rw [hbw] at hcore
    have hu' : u.state ≠ .probeRTT := by
      rw [Ne, ← core_inProbeRTT, hcore, core_inProbeRTT]
      exact hne
    rw [core_setCwnd_fresh u prior (by rw [hcore]; exact { hu with }) hu', hcore]
    rfl

end

end MoqQuic.BBRv3Sender
