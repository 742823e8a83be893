import MoqQuic.Congestion.Bbrv3.Ack

/-!
# MoqQuic.Congestion.Bbrv3.Step

The calls of the send algorithm as steps of the core, and the invariant that
every call keeps.

`OnPacketAcked` runs in phases, and each phase has its equation:

* the ack is recorded (`core_recordAck`);
* ProbeRTT is possibly left (`core_maybeExitProbeRTT`), and if it is not the
  call returns;
* the samples are taken (`core_sampleAck`) and recovery is left
  (`core_exitRecovery`);
* the model is updated (`core_processAck`).
-/

namespace MoqQuic.BBRv3Sender

namespace Core

/-- The second entry into ProbeRTT, at the end of an ack. -/
def age (c : Core) (t : Time) : Core :=
  if t - c.minRttStamp ≥ 10 * second ∧ t - c.probeRttDoneStamp ≥ 10 * second then
    { c with inProbeRTT := true, minRtt := 10 * second, probeRttDoneStamp := t }
  else c

/-- ProbeRTT has been stamped and has lasted long enough at `t`. -/
def CanLeave (c : Core) (t : Time) : Prop :=
  c.inProbeRTT = true ∧ c.probeRttDoneStamp > 0 ∧
    t - c.probeRttDoneStamp ≥ c.config.probeRttDuration

instance (c : Core) (t : Time) : Decidable (c.CanLeave t) :=
  inferInstanceAs (Decidable (_ ∧ _ ∧ _))

/-- The exit from ProbeRTT that a run can take. -/
def leave (c : Core) (t : Time) : Core :=
  { c with inProbeRTT := c.inProbeRTT && !decide (c.CanLeave t) }

/-- The exit from recovery. -/
def recover (c : Core) : Core :=
  { c with packetConservation := false, inRecoveryMode := false, cwnd := max c.cwnd c.priorCwnd }

theorem leave_stays {c : Core} {t : Time} (h : (c.leave t).inProbeRTT = true) :
    c.inProbeRTT = true := by
  simp only [leave, Bool.and_eq_true] at h
  exact h.1

/-- The model update of an ack. -/
def update (c : Core) (prior : Nat) (t : Time) : Core :=
  if c.Expired t then c.expire prior t else c.fresh prior

end Core

variable (b : BBRv3Sender)

/-! ## the phases of an ack -/

theorem core_maybeExitProbeRTT (t : Time) : (b.maybeExitProbeRTT t).core = b.core.leave t := by
  unfold maybeExitProbeRTT
  have hiff : (b.state = .probeRTT ∧ b.probeRttDoneStamp > 0 ∧
      t - b.probeRttDoneStamp ≥ b.config.probeRttDuration) ↔ b.core.CanLeave t := by
    unfold Core.CanLeave
    rw [core_inProbeRTT]
    rfl
  by_cases h : b.core.CanLeave t
  · rw [if_pos (hiff.mpr h), core_exitProbeRTTFromAbove]
    simp [Core.leave, h]
  · rw [if_neg (mt hiff.mp h)]
    simp [Core.leave, h]

variable (n bytes : Nat)

theorem core_recordAck (sentTime t : Time) :
    (b.recordAck n bytes sentTime t).core =
      { b.core with
        sentTimes := Function.update b.sentTimes n none
        minRtt := (b.recordAck n bytes sentTime t).minRtt
        minRttStamp := (b.recordAck n bytes sentTime t).minRttStamp } := by
  unfold recordAck
  dsimp only
  split <;> split <;> rfl

theorem minRtt_recordAck (sentTime t : Time) :
    ((b.recordAck n bytes sentTime t).minRtt = b.minRtt ∧
        (b.recordAck n bytes sentTime t).minRttStamp = b.minRttStamp) ∨
      (0 < (b.recordAck n bytes sentTime t).minRtt ∧
        (b.recordAck n bytes sentTime t).minRttStamp = t) := by
  unfold recordAck
  dsimp only
  split
  · next h => exact Or.inr ⟨h.1, rfl⟩
  · exact Or.inl ⟨rfl, rfl⟩

theorem core_sampleAck (t : Time) :
    (b.sampleAck t).core =
      { b.core with
        packetConservation := (b.sampleAck t).packetConservation
        maxBw := (b.sampleAck t).maxBw } := by
  unfold sampleAck updateRound
  dsimp only
  split <;> split <;> rfl

theorem core_exitRecovery : b.exitRecovery.core = b.core.recover := by
  rw [exitRecovery, restoreCwnd_eq]
  rfl

theorem core_checkMinRttAge (t : Time) : (b.checkMinRttAge t).core = b.core.age t := by
  unfold checkMinRttAge Core.age
  by_cases h : t - b.minRttStamp ≥ 10 * second ∧ t - b.probeRttDoneStamp ≥ 10 * second
  · rw [if_pos h, if_pos (show t - b.core.minRttStamp ≥ _ ∧ t - b.core.probeRttDoneStamp ≥ _ from h)]
    rfl
  · rw [if_neg h, if_neg (show ¬ (t - b.core.minRttStamp ≥ _ ∧ t - b.core.probeRttDoneStamp ≥ _) from h)]

/-! ## the invariant -/

/-- What every call keeps: no bound is in force, the min-RTT estimate is
positive, and the configuration is the one of a datagram size. -/
structure Core.Inv (c : Core) : Prop where
  unbounded : c.Unbounded
  idleRestart : c.idleRestart = false
  minRtt : 0 < c.minRtt
  initialRtt : c.config.initialRtt = 100 * millisecond
  probeRttDuration : c.config.probeRttDuration = probeRttDurationConst
  probeRttInterval : c.config.probeRttInterval = probeRttIntervalConst
  minCwnd : c.config.minCwnd = minPipeCwndInSmss * c.config.maxDatagramSize
  size : c.config.maxDatagramSize = c.maxDatagramSize ∨
    (c.maxDatagramSize = 0 ∧ c.config.maxDatagramSize = defaultMaxDatagramSize)

theorem Core.Inv.initialRtt_ne (h : b.core.Inv) : b.config.initialRtt ≠ 0 := by
  have hr : b.config.initialRtt = 100 * millisecond := h.initialRtt
  rw [hr]
  decide

namespace Core.Inv

variable {c : Core}

theorem of_minRtt (h : c.Inv) (sent : Nat → Option Time) (inProbeRTT pc : Bool) (maxBw : Nat)
    {rtt : Duration} (stamp : Time) (hrtt : 0 < rtt) :
    ({ c with
      sentTimes := sent, inProbeRTT := inProbeRTT, packetConservation := pc, maxBw := maxBw,
      minRtt := rtt, minRttStamp := stamp } : Core).Inv :=
  ⟨{ h.1 with }, h.2, hrtt, h.4, h.5, h.6, h.7, h.8⟩

theorem recover (h : c.Inv) : c.recover.Inv :=
  ⟨{ h.1 with }, h.2, h.3, h.4, h.5, h.6, h.7, h.8⟩

theorem update (h : c.Inv) (prior : Nat) (t : Time) (maxBw : Nat) :
    ({ c.update prior t with maxBw := maxBw } : Core).Inv := by
  have hrtt : 0 < c.config.initialRtt := by rw [h.initialRtt]; decide
  unfold Core.update
  split
  · exact ⟨{ h.1 with }, h.2, hrtt, h.4, h.5, h.6, h.7, h.8⟩
  · exact ⟨{ h.1 with }, h.2, h.3, h.4, h.5, h.6, h.7, h.8⟩

theorem age (h : c.Inv) (t : Time) : (c.age t).Inv := by
  unfold Core.age
  split
  · have hrtt : 0 < 10 * second := by decide
    exact ⟨{ h.1 with }, h.2, hrtt, h.4, h.5, h.6, h.7, h.8⟩
  · exact h

end Core.Inv

/-- **Simulation of the model update**: after it the core is the one of
`Core.update` and `Core.age`, up to the bandwidth estimate. -/
theorem core_processAck (prior : Nat) (t clock : Time) (hi : b.core.Inv)
    (hne : b.state ≠ .probeRTT) :
    ∃ maxBw, (b.processAck prior t clock).core =
      ({ b.core.update prior t with maxBw := maxBw } : Core).age t := by
  have hupd := core_updateOnAck b prior t clock hi.unbounded hne hi.idleRestart
    (Int.ne_of_gt hi.minRtt) hi.initialRtt_ne
  refine ⟨(((b.updateOnAck prior t clock).checkStartupDone).leaveDrain prior
    clock).updateMaxBwFilter.maxBw, ?_⟩
  unfold processAck
  dsimp only
  rw [core_checkMinRttAge, core_updateMaxBwFilter, core_leaveDrain, core_checkStartupDone, hupd]
  rfl

/-! ## what an ack can do -/

/-- The ack updates the model: its packet is known, the sender is not held in
ProbeRTT, and a round trip has passed. -/
def ackUpdates (n bytes : Nat) (t : Time) : Bool :=
  match b.sentTimes n with
  | none => false
  | some sentTime =>
    let a := b.ackArrived n bytes sentTime t
    decide (a.state ≠ .probeRTT) && (a.sampleAck t).roundTripPassed t

/-- The sender as the model update of an ack finds it. -/
def ackSampled (n bytes : Nat) (t : Time) : BBRv3Sender :=
  match b.sentTimes n with
  | none => b
  | some sentTime => ((b.ackArrived n bytes sentTime t).sampleAck t).leaveRecovery

/-- **Inversion of an ack**: it updates the model, or it changes neither the
window nor any stamp of ProbeRTT, and can only leave ProbeRTT. -/
theorem onPacketAcked_cases (n bytes prior : Nat) (t clock : Time) :
    (b.ackUpdates n bytes t = true ∧
      b.onPacketAcked n bytes prior t clock = (b.ackSampled n bytes t).processAck prior t clock) ∨
    (b.ackUpdates n bytes t = false ∧
      (b.onPacketAcked n bytes prior t clock = b ∨
        ∃ sentTime, b.sentTimes n = some sentTime ∧
          (((b.ackArrived n bytes sentTime t).state = .probeRTT ∧
            b.onPacketAcked n bytes prior t clock = b.ackArrived n bytes sentTime t) ∨
           ((b.ackArrived n bytes sentTime t).state ≠ .probeRTT ∧
            b.onPacketAcked n bytes prior t clock =
              (b.ackArrived n bytes sentTime t).sampleAck t)))) := by
  unfold ackUpdates ackSampled onPacketAcked
  cases hs : b.sentTimes n with
  | none => exact Or.inr ⟨rfl, Or.inl rfl⟩
  | some sentTime =>
    dsimp only
    by_cases hst : (b.ackArrived n bytes sentTime t).state = .probeRTT
    · rw [if_pos hst]
      exact Or.inr ⟨by simp [hst], Or.inr ⟨sentTime, rfl, Or.inl ⟨hst, rfl⟩⟩⟩
    · rw [if_neg hst]
      by_cases hrt : ((b.ackArrived n bytes sentTime t).sampleAck t).roundTripPassed t = true
      · rw [if_pos hrt]
        exact Or.inl ⟨by simp [hst, hrt], rfl⟩
      · rw [if_neg hrt]
        exact Or.inr ⟨by simp [hst, hrt], Or.inr ⟨sentTime, rfl, Or.inr ⟨hst, rfl⟩⟩⟩

/-- The core of an arrived ack: a forgotten packet, perhaps a new minimum RTT,
and perhaps the exit from ProbeRTT. -/
theorem core_ackArrived (sentTime t : Time) :
    ∃ rtt stamp, ((rtt = b.minRtt ∧ stamp = b.minRttStamp) ∨ (0 < rtt ∧ stamp = t)) ∧
      (b.ackArrived n bytes sentTime t).core =
        ({ b.core with
          sentTimes := Function.update b.sentTimes n none
          minRtt := rtt
          minRttStamp := stamp } : Core).leave t := by
  refine ⟨_, _, minRtt_recordAck b n bytes sentTime t, ?_⟩
  rw [ackArrived, core_maybeExitProbeRTT, core_recordAck]

theorem core_leaveRecovery :
    b.leaveRecovery.core = if b.inRecoveryMode then b.core.recover else b.core := by
  unfold leaveRecovery
  split
  · exact core_exitRecovery b
  · rfl

theorem inv_ackArrived (sentTime t : Time) (hi : b.core.Inv) :
    (b.ackArrived n bytes sentTime t).core.Inv := by
  obtain ⟨rtt, stamp, hrtt, hcore⟩ := core_ackArrived b n bytes sentTime t
  have hpos : 0 < rtt := by
    cases hrtt with
    | inl h => rw [h.1]; exact hi.minRtt
    | inr h => exact h.1
  rw [hcore]
  exact hi.of_minRtt _ _ _ _ _ hpos

theorem inv_sampleAck (t : Time) (hi : b.core.Inv) : (b.sampleAck t).core.Inv := by
  rw [core_sampleAck]
  exact hi.of_minRtt _ _ _ _ _ hi.minRtt

theorem inv_ackSampled (t : Time) (hi : b.core.Inv) : (b.ackSampled n bytes t).core.Inv := by
  unfold ackSampled
  cases b.sentTimes n with
  | none => exact hi
  | some sentTime =>
    have hs := inv_sampleAck _ t (inv_ackArrived b n bytes sentTime t hi)
    dsimp only
    rw [core_leaveRecovery]
    split
    · exact hs.recover
    · exact hs

/-- An ack that updates the model does so outside ProbeRTT. -/
theorem state_ackSampled (t : Time) (h : b.ackUpdates n bytes t = true) :
    (b.ackSampled n bytes t).state ≠ .probeRTT := by
  unfold ackUpdates at h
  unfold ackSampled
  cases hs : b.sentTimes n with
  | none =>
    rw [hs] at h
    contradiction
  | some sentTime =>
    simp only [hs, Bool.and_eq_true, decide_eq_true_eq] at h
    dsimp only
    rw [Ne, ← core_inProbeRTT, core_leaveRecovery]
    have hsample : ((b.ackArrived n bytes sentTime t).sampleAck t).core.inProbeRTT ≠ true := by
      rw [core_sampleAck]
      exact mt (core_inProbeRTT _).mp h.1
    split
    · exact hsample
    · exact hsample

/-- What the phases of an ack before the model update do to the core: they keep
the configuration, the bandwidth and the stamps of ProbeRTT, never shrink the
window, and stamp a new minimum RTT with the time of the ack. -/
structure Core.Sampled (c c' : Core) (t : Time) : Prop where
  config : c'.config = c.config
  bw : c'.bw = c.bw
  probeRttMinStamp : c'.probeRttMinStamp = c.probeRttMinStamp
  probeRttDoneStamp : c'.probeRttDoneStamp = c.probeRttDoneStamp
  minRttStamp : c'.minRttStamp = c.minRttStamp ∨ c'.minRttStamp = t
  cwnd : c.cwnd ≤ c'.cwnd

namespace Core.Sampled

variable {c c' : Core} {t : Time}

theorem expired_iff (h : c.Sampled c' t) (now : Time) : c'.Expired now ↔ c.Expired now := by
  unfold Core.Expired
  rw [h.config, h.probeRttMinStamp]

theorem probeWindow_eq (h : c.Sampled c' t) (bw : Nat) : c'.probeWindow bw = c.probeWindow bw := by
  unfold Core.probeWindow
  rw [h.config]

end Core.Sampled

theorem sampled_ackArrived (sentTime t : Time) :
    b.core.Sampled (b.ackArrived n bytes sentTime t).core t ∧
      (b.ackArrived n bytes sentTime t).cwnd = b.cwnd := by
  obtain ⟨rtt, stamp, hrtt, hcore⟩ := core_ackArrived b n bytes sentTime t
  have hstamp : stamp = b.core.minRttStamp ∨ stamp = t := hrtt.imp And.right And.right
  have hw : (b.ackArrived n bytes sentTime t).cwnd = b.cwnd := congrArg Core.cwnd hcore
  rw [hcore]
  exact ⟨⟨rfl, rfl, rfl, rfl, hstamp, Nat.le_refl _⟩, hw⟩

theorem sampled_sampleAck {c : Core} {t : Time} (h : c.Sampled b.core t) :
    c.Sampled (b.sampleAck t).core t := by
  rw [core_sampleAck]
  exact { h with }

theorem sampled_ackSampled (t : Time) : b.core.Sampled (b.ackSampled n bytes t).core t := by
  unfold ackSampled
  cases b.sentTimes n with
  | none => exact ⟨rfl, rfl, rfl, rfl, Or.inl rfl, Nat.le_refl _⟩
  | some sentTime =>
    have h := sampled_sampleAck _ (sampled_ackArrived b n bytes sentTime t).1
    dsimp only
    rw [core_leaveRecovery]
    split
    · exact ⟨h.1, h.2, h.3, h.4, h.5, Nat.le_trans h.6 (Nat.le_max_left _ _)⟩
    · exact h

/-- An arrived ack can leave ProbeRTT and cannot enter it. -/
theorem stays_ackArrived (sentTime t : Time)
    (h : (b.ackArrived n bytes sentTime t).core.inProbeRTT = true) : b.core.inProbeRTT = true := by
  obtain ⟨rtt, stamp, -, hcore⟩ := core_ackArrived b n bytes sentTime t
  rw [hcore] at h
  exact Core.leave_stays h

theorem onPacketAcked_of_updates (n bytes prior : Nat) (t clock : Time)
    (hup : b.ackUpdates n bytes t = true) :
    b.onPacketAcked n bytes prior t clock = (b.ackSampled n bytes t).processAck prior t clock := by
  obtain ⟨-, he⟩ | ⟨hno, -⟩ := onPacketAcked_cases b n bytes prior t clock
  · exact he
  · rw [hup] at hno
    contradiction

/-- **An ack that does not update the model** leaves ProbeRTT at most, and keeps
the window. -/
theorem onPacketAcked_of_not_updates (n bytes prior : Nat) (t clock : Time)
    (hup : b.ackUpdates n bytes t = false) :
    b.core.Sampled (b.onPacketAcked n bytes prior t clock).core t ∧
      (b.onPacketAcked n bytes prior t clock).core.cwnd = b.core.cwnd ∧
      ((b.onPacketAcked n bytes prior t clock).core.inProbeRTT = true →
        b.core.inProbeRTT = true) := by
  obtain ⟨hyes, -⟩ | ⟨-, he | ⟨sentTime, -, ⟨-, he⟩ | ⟨-, he⟩⟩⟩ :=
    onPacketAcked_cases b n bytes prior t clock
  · rw [hup] at hyes
    contradiction
  · rw [he]
    exact ⟨⟨rfl, rfl, rfl, rfl, Or.inl rfl, Nat.le_refl _⟩, rfl, id⟩
  · obtain ⟨hsam, hw⟩ := sampled_ackArrived b n bytes sentTime t
    rw [he]
    exact ⟨hsam, hw, stays_ackArrived b n bytes sentTime t⟩
  · obtain ⟨hsam, hw⟩ := sampled_ackArrived b n bytes sentTime t
    have hcore := core_sampleAck (b.ackArrived n bytes sentTime t) t
    rw [he]
    refine ⟨sampled_sampleAck _ hsam, ?_, fun h => ?_⟩
    · rw [hcore]
      exact hw
    · rw [hcore] at h
      exact stays_ackArrived b n bytes sentTime t h

/-! ## the other calls -/

/-- `OnPacketSent` writes two fields. -/
theorem onPacketSent_eq (sentTime : Time) (n bytes : Nat) :
    ∃ next, b.onPacketSent sentTime n bytes =
      { b with
        sentTimes := Function.update b.sentTimes n (some sentTime), nextSendTime := next } := by
  unfold onPacketSent
  dsimp only
  split
  · exact ⟨_, rfl⟩
  · exact ⟨b.nextSendTime, rfl⟩

theorem core_onPacketSent (sentTime : Time) (n bytes : Nat) :
    (b.onPacketSent sentTime n bytes).core =
      { b.core with sentTimes := Function.update b.sentTimes n (some sentTime) } := by
  obtain ⟨next, he⟩ := b.onPacketSent_eq sentTime n bytes
  rw [he]
  rfl

/-- The window that a loss is subtracted from: a loss outside Startup, ProbeRTT
and recovery enters recovery first. -/
def lossWindow : Nat :=
  if ¬ b.inRecoveryMode ∧ b.state ≠ .startup ∧ b.state ≠ .probeRTT then
    b.config.minCwnd + b.config.maxDatagramSize
  else b.cwnd

variable (lost : Nat)

/-- A loss that enters recovery saves the window in recovery already; any other loss changes only
the window. -/
theorem onCongestionEvent_cases (clock : Time) :
    ∃ cwnd, cwnd = (if b.lossWindow > lost then b.lossWindow - lost else b.config.minCwnd) ∧
      ((b.inRecoveryMode = false ∧ b.state ≠ .probeRTT ∧
          b.onCongestionEvent lost clock =
            { b with
              inRecoveryMode := true, pacingGain := 1, priorCwnd := max b.priorCwnd b.cwnd
              recoveryEpochStart := clock, cwnd := cwnd, packetConservation := true }.startRound) ∨
        b.onCongestionEvent lost clock = { b with cwnd := cwnd }) := by
  have hsubtract : ∀ a : BBRv3Sender, a.subtractLoss lost =
      { a with cwnd := if a.cwnd > lost then a.cwnd - lost else a.config.minCwnd } := by
    intro a
    unfold subtractLoss
    split <;> rfl
  refine ⟨_, rfl, ?_⟩
  unfold onCongestionEvent recoverOnLoss lossWindow
  rw [hsubtract]
  split
  · next h =>
    rw [enterRecovery, saveCwnd_eq _ (.inl rfl)]
    exact .inl ⟨Bool.eq_false_iff.mpr h.1, h.2.2, rfl⟩
  · exact .inr rfl

theorem core_onCongestionEvent (clock : Time) :
    ∃ priorCwnd packetConservation inRecoveryMode,
      (b.onCongestionEvent lost clock).core =
        { b.core with
          cwnd := if b.lossWindow > lost then b.lossWindow - lost else b.config.minCwnd
          priorCwnd := priorCwnd
          packetConservation := packetConservation
          inRecoveryMode := inRecoveryMode } := by
  obtain ⟨cwnd, rfl, ⟨-, -, he⟩ | he⟩ := b.onCongestionEvent_cases lost clock
  · rw [he]
    exact ⟨_, _, _, rfl⟩
  · rw [he]
    exact ⟨b.priorCwnd, b.packetConservation, b.inRecoveryMode, rfl⟩

theorem state_onCongestionEvent (clock : Time) :
    (b.onCongestionEvent lost clock).state = b.state := by
  obtain ⟨cwnd, -, ⟨-, -, he⟩ | he⟩ := b.onCongestionEvent_cases lost clock
  · rw [he]
    rfl
  · rw [he]

theorem core_newBBRv3Sender (mds : Nat) (now initNow : Time) :
    (newBBRv3Sender mds now initNow).core =
      { config := newConfig mds
        inProbeRTT := false
        cwnd := (newConfig mds).initialCwnd
        priorCwnd := 0
        packetConservation := false
        inRecoveryMode := false
        bw := (newBBRv3Sender mds now initNow).bw
        maxBw := (newBBRv3Sender mds now initNow).maxBw
        minRtt := 100 * millisecond
        minRttStamp := initNow
        probeRttMinStamp := now
        probeRttDoneStamp := 0
        probeRttExpired := false
        idleRestart := false
        bwHi := maxUint64
        bwLo := maxUint64
        inflightHi := maxUint64
        inflightLo := maxUint64
        sentTimes := fun _ => none
        maxDatagramSize := mds } := rfl

theorem inv_newBBRv3Sender (mds : Nat) (now initNow : Time) :
    (newBBRv3Sender mds now initNow).core.Inv := by
  rw [core_newBBRv3Sender]
  have hrtt : 0 < 100 * millisecond := by decide
  refine ⟨⟨rfl, rfl, rfl, rfl⟩, rfl, hrtt, rfl, rfl, rfl, rfl, ?_⟩
  by_cases h : mds = 0
  · exact Or.inr ⟨h, by simp [newConfig, h]⟩
  · exact Or.inl (by simp [newConfig, h])

theorem inv_onPacketAcked (n bytes prior : Nat) (t clock : Time) (hi : b.core.Inv) :
    (b.onPacketAcked n bytes prior t clock).core.Inv := by
  obtain ⟨hup, he⟩ | ⟨-, he | ⟨sentTime, -, ⟨-, he⟩ | ⟨-, he⟩⟩⟩ :=
    onPacketAcked_cases b n bytes prior t clock
  · have hs := inv_ackSampled b n bytes t hi
    obtain ⟨maxBw, hcore⟩ := core_processAck _ prior t clock hs (state_ackSampled b n bytes t hup)
    rw [he, hcore]
    exact (hs.update prior t maxBw).age t
  · rw [he]
    exact hi
  · rw [he]
    exact inv_ackArrived b n bytes sentTime t hi
  · rw [he]
    exact inv_sampleAck _ t (inv_ackArrived b n bytes sentTime t hi)

theorem inv_onCongestionEvent (clock : Time) (hi : b.core.Inv) :
    (b.onCongestionEvent lost clock).core.Inv := by
  obtain ⟨pc, pk, rec, hcore⟩ := core_onCongestionEvent b lost clock
  rw [hcore]
  exact ⟨{ hi.1 with }, hi.2, hi.3, hi.4, hi.5, hi.6, hi.7, hi.8⟩

theorem inv_maybeExitProbeRTT (t : Time) (hi : b.core.Inv) : (b.maybeExitProbeRTT t).core.Inv := by
  rw [core_maybeExitProbeRTT]
  exact hi.of_minRtt _ _ _ _ _ hi.minRtt

theorem inv_onRetransmissionTimeout (retransmitted : Bool) (now initNow : Time)
    (hi : b.core.Inv) : (b.onRetransmissionTimeout retransmitted now initNow).core.Inv := by
  unfold onRetransmissionTimeout
  split
  · have hnew := inv_newBBRv3Sender b.maxDatagramSize now initNow
    exact ⟨{ hnew.1 with }, hnew.2, hnew.3, hi.4, hi.5, hi.6, hi.7, hi.8⟩
  · exact hi

theorem inv_onPacketSent (sentTime : Time) (n bytes : Nat) (hi : b.core.Inv) :
    (b.onPacketSent sentTime n bytes).core.Inv := by
  rw [core_onPacketSent]
  exact hi.of_minRtt _ _ _ _ _ hi.minRtt

theorem inv_setMaxDatagramSize (size : Nat) (hi : b.core.Inv) :
    (b.setMaxDatagramSize size).core.Inv :=
  ⟨{ hi.1 with }, hi.2, hi.3, hi.4, hi.5, hi.6, rfl, Or.inl rfl⟩

/-- **Every call keeps the invariant.** -/
theorem inv_step (op : Op) (hi : b.core.Inv) : (b.step op).core.Inv := by
  cases op with
  | sent sentTime n bytes => exact inv_onPacketSent b sentTime n bytes hi
  | acked n bytes prior t clock => exact inv_onPacketAcked b n bytes prior t clock hi
  | lost bytes clock => exact inv_onCongestionEvent b bytes clock hi
  | pacing t => exact inv_maybeExitProbeRTT b t hi
  | timeout retransmitted now initNow =>
    exact inv_onRetransmissionTimeout b retransmitted now initNow hi
  | setMaxDatagramSize size => exact inv_setMaxDatagramSize b size hi

end MoqQuic.BBRv3Sender
