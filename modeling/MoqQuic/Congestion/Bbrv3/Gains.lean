import MoqQuic.Congestion.Bbrv3.Meter
import MoqQuic.Lib.Machine

/-!
# MoqQuic.Congestion.Bbrv3.Gains

The gains of the states.

`updateGains` sets both gains from the state, but not every change of the state is followed by it.
An ack runs it in the middle (`matched_updateOnAck`) and changes the state twice more: it leaves
Drain without it, and it enters ProbeRTT with a window gain of its own. A query for the pacing
budget leaves ProbeRTT without it once the pipe is full. `matched_iff_keepsGains` says that these are
all.
-/

namespace MoqQuic

/-- The gains that `updateGains` assigns to a state. -/
def Bbrv3State.gains : Bbrv3State → ℚ × ℚ
  | .startup => (277 / 100, 2)
  | .drain => (1 / 2, 2)
  | .probeBwDown => (9 / 10, 2)
  | .probeBwCruise => (1, 2)
  | .probeBwRefill => (1, 2)
  | .probeBwUp => (125 / 100, 225 / 100)
  | .probeRTT => (1, 1 / 2)

namespace BBRv3Sender

/-- What the gains are about. -/
structure Steering where
  state : Bbrv3State
  gains : ℚ × ℚ

def steering (b : BBRv3Sender) : Steering := ⟨b.state, (b.pacingGain, b.cwndGain)⟩

/-- The gains are those of the state. -/
def Steering.Matched (s : Steering) : Prop := s.gains = s.state.gains

variable (b : BBRv3Sender)

/-! ## the methods -/

theorem steering_updateGains : b.updateGains.steering = ⟨b.state, b.state.gains⟩ := by
  unfold updateGains
  split <;> next h => simp only [steering, h, Bbrv3State.gains]

theorem matched_updateGains : b.updateGains.steering.Matched := by
  rw [steering_updateGains]
  rfl

theorem steering_bdp (bw : Nat) (gain : ℚ) : (b.bdp bw gain).2.steering = b.steering := by
  unfold bdp
  split <;> rfl

theorem steering_enterProbeBw (now : Time) :
    (b.enterProbeBw now).steering = ⟨.probeBwDown, b.steering.gains⟩ := rfl

/-- With a full pipe the exit from ProbeRTT keeps the gains of ProbeRTT. -/
theorem steering_exitProbeRTTFromAbove (now : Time) :
    (b.exitProbeRTTFromAbove now).steering =
      if b.isFilledPipe then ⟨.probeBwCruise, b.steering.gains⟩
      else ⟨.startup, Bbrv3State.startup.gains⟩ := by
  unfold exitProbeRTTFromAbove
  split
  · rfl
  · exact steering_updateGains _

theorem steering_updateControlParameters : b.updateControlParameters.steering = b.steering := by
  unfold updateControlParameters setPacingRate setPacingRateWithGain setSendQuantum
  dsimp only
  split <;> rfl

theorem steering_setCwnd (bytesInFlight : Nat) :
    (b.setCwnd bytesInFlight).steering = b.steering := by
  have hmax : b.updateMaxInflight.steering = b.steering := steering_bdp b b.maxBw b.cwndGain
  have hmodulate : ∀ a : BBRv3Sender,
      (a.modulateCwndForRecovery bytesInFlight).steering = a.steering := by
    intro a
    unfold modulateCwndForRecovery
    split
    · split <;> rfl
    · rfl
  have hfloor : ∀ a : BBRv3Sender, a.floorCwnd.steering = a.steering := by
    intro a
    unfold floorCwnd
    split <;> rfl
  have hprobe : ∀ a : BBRv3Sender, a.boundCwndForProbeRtt.steering = a.steering := by
    intro a
    have h : a.probeRttCwnd.2.steering = a.steering := steering_bdp a a.bw a.cwndGain
    unfold boundCwndForProbeRtt
    split
    · dsimp only
      split
      · exact h
      · exact h
    · rfl
  have hmodel : ∀ a : BBRv3Sender, a.boundCwndForModel.steering = a.steering := by
    intro a
    unfold boundCwndForModel
    split <;> rfl
  unfold setCwnd
  dsimp only
  rw [hmodel, hprobe, hfloor, hmodulate, hmax]

variable (prior : Nat)

/-- **The middle of an ack**: the gains are those of the state. -/
theorem matched_updateOnAck (t clock : Time) : (b.updateOnAck prior t clock).steering.Matched := by
  unfold updateOnAck
  dsimp only
  rw [steering_setCwnd, steering_updateControlParameters]
  exact matched_updateGains _

theorem matched_checkStartupDone (h : b.steering.Matched) : b.checkStartupDone.steering.Matched := by
  have hcheck : b.checkStartupFullBandwidth.steering = b.steering := by
    unfold checkStartupFullBandwidth
    split
    · rfl
    · split <;> rfl
  unfold checkStartupDone checkStartupHighLoss
  dsimp only
  split
  · exact matched_updateGains _
  · rw [hcheck]
    exact h

/-! ## the end of an ack -/

/-- The second Drain check of the ack leaves Drain. -/
def LeavesDrain (prior : Nat) : Prop := b.state = .drain ∧ prior < (b.inflight 1).1

instance (prior : Nat) : Decidable (b.LeavesDrain prior) := inferInstanceAs (Decidable (_ ∧ _))

/-- The last check of the ack finds an old estimate of the minimum RTT. -/
def Aged (t : Time) : Prop :=
  t - b.minRttStamp ≥ 10 * second ∧ t - b.probeRttDoneStamp ≥ 10 * second

instance (t : Time) : Decidable (b.Aged t) := inferInstanceAs (Decidable (_ ∧ _))

variable {b}

theorem matched_leaveDrain_iff (h : b.steering.Matched) (prior : Nat) (clock : Time) :
    (b.leaveDrain prior clock).steering.Matched ↔ ¬ b.LeavesDrain prior := by
  unfold leaveDrain LeavesDrain
  by_cases hst : b.state = .drain
  · have hin : (b.inflight 1).2.steering = b.steering := steering_bdp b b.maxBw 1
    rw [if_pos hst]
    dsimp only
    split
    · next hlt =>
      have hgains : (b.inflight 1).2.steering.gains = (1 / 2, 2) := by
        rw [hin, h, show b.steering.state = .drain from hst]
        rfl
      rw [steering_enterProbeBw, hgains]
      refine ⟨fun hmatched => ?_, fun hnot => absurd ⟨hst, hlt⟩ hnot⟩
      exact absurd hmatched (by unfold Steering.Matched; decide +kernel)
    · next hlt =>
      rw [hin]
      exact ⟨fun _ hnot => hlt hnot.2, fun _ => h⟩
  · rw [if_neg hst]
    exact ⟨fun _ hnot => hst hnot.1, fun _ => h⟩

theorem matched_checkMinRttAge_iff (t : Time) :
    (b.checkMinRttAge t).steering.Matched ↔ b.steering.Matched ∧ ¬ b.Aged t := by
  unfold checkMinRttAge Aged
  split
  · next haged =>
    refine ⟨fun hmatched => ?_, fun hnot => absurd haged hnot.2⟩
    have hone : ((1 : ℚ), (1 : ℚ)) = (1, 1 / 2) := hmatched
    exact absurd hone (by decide +kernel)
  · next haged => exact ⟨fun h => ⟨h, haged⟩, fun h => h.1⟩

/-- The end of an ack finds an old estimate, unless the model update has just renewed it. -/
theorem aged_updateOnAck_iff (t clock : Time) (hi : b.core.Inv) (hne : b.state ≠ .probeRTT) :
    ((b.updateOnAck prior t clock).checkStartupDone.leaveDrain prior clock).updateMaxBwFilter.Aged t
      ↔ ¬ b.core.Expired t ∧ b.Aged t := by
  have hupd := core_updateOnAck b prior t clock hi.unbounded hne hi.idleRestart
    (Int.ne_of_gt hi.minRtt) hi.initialRtt_ne
  have hcore : (((b.updateOnAck prior t clock).checkStartupDone.leaveDrain prior
      clock).updateMaxBwFilter).core =
      { b.core.update prior t with
        maxBw := ((b.updateOnAck prior t clock).checkStartupDone.leaveDrain prior
          clock).updateMaxBwFilter.maxBw } := by
    rw [core_updateMaxBwFilter, core_leaveDrain, core_checkStartupDone, hupd]
    rfl
  generalize ((b.updateOnAck prior t clock).checkStartupDone.leaveDrain prior
    clock).updateMaxBwFilter = a at hcore ⊢
  have haged : a.Aged t ↔ t - (b.core.update prior t).minRttStamp ≥ 10 * second ∧
      t - (b.core.update prior t).probeRttDoneStamp ≥ 10 * second := by
    have hmin : a.minRttStamp = (b.core.update prior t).minRttStamp :=
      congrArg Core.minRttStamp hcore
    have hdone : a.probeRttDoneStamp = (b.core.update prior t).probeRttDoneStamp :=
      congrArg Core.probeRttDoneStamp hcore
    unfold Aged
    rw [hmin, hdone]
  rw [haged]
  unfold Core.update
  by_cases hexp : b.core.Expired t
  · rw [if_pos hexp]
    refine ⟨fun h => absurd h.1 ?_, fun h => absurd hexp h.1⟩
    change ¬ t - t ≥ 10 * second
    rw [Int.sub_self]
    decide
  · rw [if_neg hexp]
    exact ⟨fun h => ⟨hexp, h⟩, fun h => h.2⟩

/-- **The end of an ack**: the gains are those of the state unless the ack changes the state after
the model update. -/
theorem matched_processAck_iff (t clock : Time) (hi : b.core.Inv) (hne : b.state ≠ .probeRTT) :
    (b.processAck prior t clock).steering.Matched ↔
      ¬ (b.updateOnAck prior t clock).checkStartupDone.LeavesDrain prior ∧
        ¬ (¬ b.core.Expired t ∧ b.Aged t) := by
  have hfilter : ∀ a : BBRv3Sender, a.updateMaxBwFilter.steering = a.steering := by
    intro a
    unfold updateMaxBwFilter
    split <;> rfl
  have hdone := matched_checkStartupDone _ (matched_updateOnAck b prior t clock)
  unfold processAck
  dsimp only
  rw [matched_checkMinRttAge_iff, aged_updateOnAck_iff prior t clock hi hne, hfilter,
    matched_leaveDrain_iff hdone]

/-! ## runs -/

variable (b)

/-- **Gains**: outside recovery the gains are those that `updateGains` assigns to the state. -/
def Matched : Prop :=
  b.inRecoveryMode = false →
    (b.pacingGain, b.cwndGain) = (b.updateGains.pacingGain, b.updateGains.cwndGain)

/-- A call does not change the state without its gains: an ack that is heard neither leaves Drain
after the model update nor enters ProbeRTT at its end, and a query for the pacing budget does not
leave ProbeRTT with a full pipe. -/
def KeepsGains : Op → Prop
  | .acked n bytes prior t clock => ∀ sentTime, b.Heard n bytes t sentTime →
      let s := b.ackSampled n bytes t
      ¬ (s.updateOnAck prior t clock).checkStartupDone.LeavesDrain prior ∧
        ¬ (¬ s.core.Expired t ∧ s.Aged t)
  | .pacing now => ¬ (b.core.CanLeave now ∧ b.isFilledPipe = true)
  | _ => True

theorem matched_iff : b.Matched ↔ (b.inRecoveryMode = false → b.steering.Matched) := by
  have h : (b.updateGains.pacingGain, b.updateGains.cwndGain) = b.state.gains :=
    congrArg Steering.gains (steering_updateGains b)
  unfold Matched
  rw [h]
  rfl

/-- What the gains rest on between two calls. -/
structure Steered : Prop where
  started : b.Started
  core : b.core.Inv
  recovery : b.inRecoveryMode = true → b.state ≠ .probeRTT

variable {b}

theorem inRecoveryMode_heard (hb : b.Steered) {n bytes : Nat} {t sentTime : Time}
    (h : b.Heard n bytes t sentTime) (prior : Nat) (clock : Time) :
    ((b.ackSampled n bytes t).processAck prior t clock).inRecoveryMode = false := by
  obtain ⟨maxBw, hcore⟩ := core_processAck _ prior t clock (inv_ackSampled b n bytes t hb.core)
    (h.state hb.started)
  have hleft : (b.ackSampled n bytes t).inRecoveryMode = false := by
    rw [ackSampled_eq h.1]
    unfold leaveRecovery exitRecovery restoreCwnd
    split
    · split <;> rfl
    · next hrec => exact Bool.eq_false_iff.mpr hrec
  have hkept : (({ (b.ackSampled n bytes t).core.update prior t with maxBw := maxBw } :
      Core).age t).inRecoveryMode = (b.ackSampled n bytes t).inRecoveryMode := by
    unfold Core.age Core.update
    split <;> split <;> rfl
  exact ((congrArg Core.inRecoveryMode hcore).trans hkept).trans hleft

theorem matched_of_eq {b' : BBRv3Sender} (hb : b.Matched) (hs : b'.steering = b.steering)
    (hrec : b'.inRecoveryMode = b.inRecoveryMode) : b'.Matched := by
  rw [matched_iff] at hb ⊢
  rw [hs, hrec]
  exact hb

/-- An ack keeps the gains right exactly under its condition. -/
theorem matched_onPacketAcked_iff (hb : b.Steered) (hm : b.Matched) (n bytes prior t clock : Nat) :
    (b.onPacketAcked n bytes prior t clock).Matched ↔
      b.KeepsGains (.acked n bytes prior t clock) := by
  obtain ⟨hno, _, _, _, _, _, _, _, he, -⟩ | ⟨sentTime, hheard, he⟩ :=
    onPacketAcked_of_started b hb.started n bytes prior t clock
  · rw [he]
    exact ⟨fun _ sentTime hheard => absurd hheard (hno sentTime), fun _ => matched_of_eq hm rfl rfl⟩
  · have hiff := matched_processAck_iff prior t clock (inv_ackSampled b n bytes t hb.core)
      (hheard.state hb.started)
    rw [he, matched_iff, inRecoveryMode_heard hb hheard]
    exact ⟨fun h _ _ => hiff.mp (h rfl), fun h _ => hiff.mpr (h sentTime hheard)⟩

theorem matched_maybeExitProbeRTT_iff (hb : b.Steered) (hm : b.Matched) (now : Nat) :
    (b.maybeExitProbeRTT now).Matched ↔ b.KeepsGains (.pacing now) := by
  have hcan : (b.state = .probeRTT ∧ b.probeRttDoneStamp > 0 ∧
      now - b.probeRttDoneStamp ≥ b.config.probeRttDuration) ↔ b.core.CanLeave now := by
    unfold Core.CanLeave
    rw [core_inProbeRTT]
    rfl
  unfold maybeExitProbeRTT KeepsGains
  by_cases hleave : b.core.CanLeave now
  · have hst := (hcan.mpr hleave).1
    have hrec : b.inRecoveryMode = false := by
      by_contra hrec
      exact hb.recovery (Bool.not_eq_false _ ▸ hrec) hst
    have hrec' : (b.exitProbeRTTFromAbove now).inRecoveryMode = false :=
      (congrArg Core.inRecoveryMode (core_exitProbeRTTFromAbove b now)).trans hrec
    rw [if_pos (hcan.mpr hleave), matched_iff, hrec', steering_exitProbeRTTFromAbove]
    by_cases hfull : b.isFilledPipe = true
    · have hgains : b.steering.gains = (1, 1 / 2) := by
        rw [(matched_iff b).mp hm hrec, show b.steering.state = .probeRTT from hst]
        rfl
      rw [if_pos hfull, hgains]
      refine ⟨fun h => absurd (h rfl) ?_, fun h => absurd ⟨hleave, hfull⟩ h⟩
      unfold Steering.Matched
      decide +kernel
    · rw [if_neg hfull]
      exact ⟨fun _ h => hfull h.2, fun _ _ => rfl⟩
  · rw [if_neg (mt hcan.mp hleave)]
    exact ⟨fun _ h => hleave h.1, fun _ => hm⟩

/-- **Every call keeps what the gains rest on.** -/
theorem steered_step (op : Op) (hb : b.Steered) : (b.step op).Steered := by
  refine ⟨started_step b op hb.started, inv_step b op hb.core, fun hrec hst => ?_⟩
  cases op with
  | sent sentTime n bytes =>
    obtain ⟨next, he⟩ := b.onPacketSent_eq sentTime n bytes
    simp only [step, he] at hrec hst
    exact hb.recovery hrec hst
  | acked n bytes prior t clock =>
    simp only [step] at hrec hst
    obtain ⟨-, _, _, _, _, _, _, _, he, -⟩ | ⟨sentTime, hheard, he⟩ :=
      onPacketAcked_of_started b hb.started n bytes prior t clock
    · rw [he] at hrec hst
      exact hb.recovery hrec hst
    · rw [he, inRecoveryMode_heard hb hheard] at hrec
      contradiction
  | lost lost clock =>
    have hst' : b.state = .probeRTT := (b.state_onCongestionEvent lost clock).symm.trans hst
    obtain ⟨_, -, ⟨-, hne, -⟩ | he⟩ := b.onCongestionEvent_cases lost clock
    · exact hne hst'
    · simp only [step, he] at hrec
      exact hb.recovery hrec hst'
  | pacing now =>
    have hcore := core_maybeExitProbeRTT b now
    have hin : (b.maybeExitProbeRTT now).core.inProbeRTT = true := (core_inProbeRTT _).mpr hst
    rw [hcore] at hin
    have hrec' : (b.maybeExitProbeRTT now).inRecoveryMode = b.inRecoveryMode :=
      congrArg Core.inRecoveryMode hcore
    exact hb.recovery (hrec'.symm.trans hrec) ((core_inProbeRTT b).mp (Core.leave_stays hin))
  | timeout retransmitted now initNow =>
    cases retransmitted with
    | true => contradiction
    | false => exact hb.recovery hrec hst
  | setMaxDatagramSize size => exact hb.recovery hrec hst

theorem steered_newBBRv3Sender (mds : Nat) (now initNow : Time) :
    (newBBRv3Sender mds now initNow).Steered := by
  refine ⟨started_newBBRv3Sender mds now initNow, inv_newBBRv3Sender mds now initNow, ?_⟩
  intro h
  contradiction

theorem matched_newBBRv3Sender (mds : Nat) (now initNow : Time) :
    (newBBRv3Sender mds now initNow).steering.Matched := rfl

/-- A call keeps the gains right exactly under its condition. -/
theorem matched_step_iff (op : Op) (hb : b.Steered) (hm : b.Matched) :
    (b.step op).Matched ↔ b.KeepsGains op := by
  cases op with
  | sent sentTime n bytes =>
    obtain ⟨next, he⟩ := b.onPacketSent_eq sentTime n bytes
    rw [step, he]
    exact ⟨fun _ => trivial, fun _ => matched_of_eq hm rfl rfl⟩
  | acked n bytes prior t clock => exact matched_onPacketAcked_iff hb hm n bytes prior t clock
  | lost lost clock =>
    refine ⟨fun _ => trivial, fun _ => ?_⟩
    obtain ⟨_, -, ⟨-, -, he⟩ | he⟩ := b.onCongestionEvent_cases lost clock
    · rw [step, he]
      intro hno
      contradiction
    · rw [step, he]
      exact matched_of_eq hm rfl rfl
  | pacing now => exact matched_maybeExitProbeRTT_iff hb hm now
  | timeout retransmitted now initNow =>
    refine ⟨fun _ => trivial, fun _ => ?_⟩
    cases retransmitted with
    | true =>
      rw [matched_iff]
      exact fun _ => matched_newBBRv3Sender b.maxDatagramSize now initNow
    | false => exact hm
  | setMaxDatagramSize size => exact ⟨fun _ => trivial, fun _ => matched_of_eq hm rfl rfl⟩

/-- **Gains, exactly**: along a run of a new sender the gains outside recovery are those of the
state, if and only if no call changes the state without its gains. -/
theorem matched_iff_keepsGains (mds : Nat) (now initNow : Time) (ops : List Op) :
    (∀ b ∈ Machine.states step (newBBRv3Sender mds now initNow) ops, b.Matched) ↔
      Machine.EachStep step KeepsGains (newBBRv3Sender mds now initNow) ops := by
  have hmatched : (newBBRv3Sender mds now initNow).Matched := by
    rw [matched_iff]
    exact fun _ => matched_newBBRv3Sender mds now initNow
  exact Machine.forall_states_iff (I := Steered) (P := Matched)
    (fun _ op hb _ => steered_step op hb) (fun _ op hb hm => matched_step_iff op hb hm) ops _
    (steered_newBBRv3Sender mds now initNow) hmatched

/-- Two packets; `gap` is the time between their acks. -/
def twoAcks (gap : Nat) : List Op :=
  [.sent 0 1 1200, .sent 0 2 1200, .acked 1 1200 2400 50000000 0,
    .acked 2 1200 1200 (50000000 + gap) 0]

/-- A sender that stays in Startup keeps its gains right. -/
theorem matched_twoAcks :
    ∀ b ∈ Machine.states step (newBBRv3Sender 1200 0 0) (twoAcks 1000), b.Matched := by
  refine (matched_iff_keepsGains 1200 0 0 (twoAcks 1000)).mpr ⟨trivial, trivial, fun _ _ => ?_,
    fun _ _ => ?_, trivial⟩
  · decide +kernel
  · decide +kernel

/-- **Counterexample**: the second ack fills the pipe at its end, enters Drain and leaves it at once,
with the gains of Drain. -/
theorem twoAcks_mismatched :
    let b := Machine.run step (newBBRv3Sender 1200 0 0) (twoAcks 10000000)
    b.state = .probeBwDown ∧ b.inRecoveryMode = false ∧ (b.pacingGain, b.cwndGain) = (1 / 2, 2) ∧
      (b.updateGains.pacingGain, b.updateGains.cwndGain) = (9 / 10, 2) ∧ ¬ b.Matched := by
  unfold Matched
  decide +kernel

end BBRv3Sender

end MoqQuic
