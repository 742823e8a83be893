import MoqQuic.Congestion.Bbrv3.Gains

/-!
# MoqQuic.Congestion.Bbrv3.Recovery

The window after a recovery.

`OnCongestionEvent` sets `inRecoveryMode` before it saves the window, so `saveCwnd` takes its branch
for a sender that is in recovery already and keeps the larger of the window and of what an earlier
recovery or ProbeRTT has left in `priorCwnd`. The exit restores that (`Saved`).
-/

namespace MoqQuic.BBRv3Sender

/-- The sender right before an ack leaves recovery. -/
def beforeExit (b : BBRv3Sender) (n bytes : Nat) (t : Time) : BBRv3Sender :=
  match b.sentTimes n with
  | none => b
  | some sentTime => (b.ackArrived n bytes sentTime t).sampleAck t

/-- A sender and what an observer of its recoveries has seen. -/
structure RecoveryWatch where
  sender : BBRv3Sender
  /-- the window just before the loss that began the last recovery -/
  entry : Nat := 0
  /-- what `priorCwnd` held then -/
  remembered : Nat := 0
  /-- a recovery has ended with another window -/
  wrong : Bool := false

namespace RecoveryWatch

def step (w : RecoveryWatch) (op : Op) : RecoveryWatch :=
  let sender := w.sender.step op
  match op with
  | .lost _ _ =>
    if ¬ w.sender.inRecoveryMode ∧ sender.inRecoveryMode then
      { w with sender, entry := w.sender.cwnd, remembered := w.sender.priorCwnd }
    else { w with sender }
  | .acked n bytes _ t _ =>
    if w.sender.inRecoveryMode ∧ ¬ sender.inRecoveryMode then
      { w with
        sender
        wrong := w.wrong || decide ((w.sender.ackSampled n bytes t).cwnd ≠
          max (w.sender.beforeExit n bytes t).cwnd w.entry) }
    else { w with sender }
  | _ => { w with sender }

/-- **Recovery**: every recovery ended with the larger of its own window and of the one just before
it began. -/
def Restored (w : RecoveryWatch) : Prop := w.wrong = false

/-- When an ack ends a recovery, the window that was remembered before it began is not larger than
both the window just before it began and the present one. -/
def ForgetsEarlier (w : RecoveryWatch) : Op → Prop
  | .acked n bytes _ t _ => ∀ sentTime, w.sender.Heard n bytes t sentTime →
      w.sender.inRecoveryMode = true → w.remembered ≤ max w.sender.cwnd w.entry
  | _ => True

/-- In recovery the saved window is the larger of the two that the loss has found. -/
structure Saved (w : RecoveryWatch) : Prop where
  steered : w.sender.Steered
  prior : w.sender.inRecoveryMode = true → w.sender.priorCwnd = max w.remembered w.entry

theorem step_sender (w : RecoveryWatch) (op : Op) : (w.step op).sender = w.sender.step op := by
  cases op with
  | acked | lost =>
    unfold step
    dsimp only
    split <;> rfl
  | _ => rfl

theorem cwnd_ackSampled {b : BBRv3Sender} {n bytes : Nat} {t sentTime : Time}
    (h : b.Heard n bytes t sentTime) (hrec : b.inRecoveryMode = true) :
    (b.beforeExit n bytes t).cwnd = b.cwnd ∧
      (b.ackSampled n bytes t).cwnd = max b.cwnd b.priorCwnd := by
  obtain ⟨rtt, stamp, -, harrived⟩ := core_ackArrived b n bytes sentTime t
  have hsample := core_sampleAck (b.ackArrived n bytes sentTime t) t
  rw [harrived] at hsample
  have hbefore : b.beforeExit n bytes t = (b.ackArrived n bytes sentTime t).sampleAck t := by
    unfold beforeExit
    rw [h.1]
  have hmode : ((b.ackArrived n bytes sentTime t).sampleAck t).inRecoveryMode = true :=
    (congrArg Core.inRecoveryMode hsample).trans hrec
  have hleave := core_leaveRecovery ((b.ackArrived n bytes sentTime t).sampleAck t)
  rw [if_pos hmode, hsample] at hleave
  rw [hbefore, ackSampled_eq h.1]
  exact ⟨congrArg Core.cwnd hsample, congrArg Core.cwnd hleave⟩

/-- A call that keeps the recovery mode and the saved window. -/
theorem Saved.of_eq {w w' : RecoveryWatch} (hw : w.Saved) (hs : w'.sender.Steered)
    (hrec : w'.sender.inRecoveryMode = w.sender.inRecoveryMode)
    (hprior : w'.sender.priorCwnd = w.sender.priorCwnd) (hentry : w'.entry = w.entry)
    (hrem : w'.remembered = w.remembered) : w'.Saved := by
  refine ⟨hs, fun h => ?_⟩
  rw [hprior, hentry, hrem]
  exact hw.prior (hrec.symm.trans h)

variable {w : RecoveryWatch}

theorem saved_lost (hw : w.Saved) (lost clock : Nat) : (w.step (.lost lost clock)).Saved := by
  have hs := steered_step (.lost lost clock) hw.steered
  obtain ⟨_, -, ⟨hno, -, he⟩ | he⟩ := w.sender.onCongestionEvent_cases lost clock
  · unfold step
    dsimp only [BBRv3Sender.step] at hs ⊢
    rw [he] at hs ⊢
    rw [if_pos ⟨Bool.eq_false_iff.mp hno, rfl⟩]
    exact ⟨hs, fun _ => rfl⟩
  · unfold step
    dsimp only [BBRv3Sender.step] at hs ⊢
    rw [he] at hs ⊢
    rw [if_neg (fun h => h.1 h.2)]
    exact hw.of_eq hs rfl rfl rfl rfl

theorem saved_acked (hw : w.Saved) (n bytes prior t clock : Nat) :
    (w.step (.acked n bytes prior t clock)).Saved := by
  have hs := steered_step (.acked n bytes prior t clock) hw.steered
  have hentry : (w.step (.acked n bytes prior t clock)).entry = w.entry ∧
      (w.step (.acked n bytes prior t clock)).remembered = w.remembered := by
    unfold step
    dsimp only
    split <;> exact ⟨rfl, rfl⟩
  have hsender := step_sender w (.acked n bytes prior t clock)
  rw [← hsender] at hs
  obtain ⟨-, _, _, _, _, _, _, _, he, -⟩ | ⟨sentTime, hheard, he⟩ :=
    onPacketAcked_of_started w.sender hw.steered.started n bytes prior t clock
  · refine hw.of_eq hs ?_ ?_ hentry.1 hentry.2
    · rw [hsender, BBRv3Sender.step, he]
    · rw [hsender, BBRv3Sender.step, he]
  · refine ⟨hs, fun h => ?_⟩
    rw [hsender, BBRv3Sender.step, he, inRecoveryMode_heard hw.steered hheard] at h
    contradiction

/-- **Every call keeps the saved window.** -/
theorem saved_step (op : Op) (hw : w.Saved) : (w.step op).Saved := by
  cases op with
  | sent sentTime n bytes =>
    have hcore := core_onPacketSent w.sender sentTime n bytes
    exact hw.of_eq (steered_step (.sent sentTime n bytes) hw.steered)
      (congrArg Core.inRecoveryMode hcore) (congrArg Core.priorCwnd hcore) rfl rfl
  | acked n bytes prior t clock => exact saved_acked hw n bytes prior t clock
  | lost lost clock => exact saved_lost hw lost clock
  | pacing now =>
    have hcore := core_maybeExitProbeRTT w.sender now
    exact hw.of_eq (steered_step (.pacing now) hw.steered)
      (congrArg Core.inRecoveryMode hcore) (congrArg Core.priorCwnd hcore) rfl rfl
  | timeout retransmitted now initNow =>
    have hs := steered_step (.timeout retransmitted now initNow) hw.steered
    cases retransmitted with
    | true =>
      refine ⟨hs, fun h => ?_⟩
      contradiction
    | false => exact hw.of_eq hs rfl rfl rfl rfl
  | setMaxDatagramSize size =>
    exact hw.of_eq (steered_step (.setMaxDatagramSize size) hw.steered) rfl rfl rfl rfl

theorem restored_acked_iff (hw : w.Saved) (hr : w.Restored) (n bytes prior t clock : Nat) :
    (w.step (.acked n bytes prior t clock)).Restored ↔
      w.ForgetsEarlier (.acked n bytes prior t clock) := by
  unfold Restored at hr ⊢
  unfold step ForgetsEarlier
  dsimp only [BBRv3Sender.step]
  obtain ⟨hno, _, _, _, _, _, _, _, he, -⟩ | ⟨sentTime, hheard, he⟩ :=
    onPacketAcked_of_started w.sender hw.steered.started n bytes prior t clock
  · rw [he, if_neg (fun h => h.2 h.1)]
    exact ⟨fun _ sentTime hheard => absurd hheard (hno sentTime), fun _ => hr⟩
  · have hrec := inRecoveryMode_heard hw.steered hheard prior clock
    rw [← he] at hrec
    cases hmode : w.sender.inRecoveryMode with
    | false =>
      rw [if_neg (fun h => Bool.false_ne_true h.1)]
      exact ⟨fun _ _ _ h => absurd h Bool.false_ne_true, fun _ => hr⟩
    | true =>
      obtain ⟨hbefore, hafter⟩ := cwnd_ackSampled hheard hmode
      rw [hrec, if_pos ⟨rfl, Bool.false_ne_true⟩]
      dsimp only
      rw [hr, Bool.false_or, decide_eq_false_iff_not, not_not, hbefore, hafter, hw.prior hmode]
      refine ⟨fun h _ _ _ => by omega, fun h => ?_⟩
      have hle := h sentTime hheard rfl
      omega

theorem restored_step_iff (op : Op) (hw : w.Saved) (hr : w.Restored) :
    (w.step op).Restored ↔ w.ForgetsEarlier op := by
  cases op with
  | acked n bytes prior t clock => exact restored_acked_iff hw hr n bytes prior t clock
  | lost lost clock =>
    refine ⟨fun _ => trivial, fun _ => ?_⟩
    unfold step Restored
    dsimp only
    split <;> exact hr
  | sent | pacing | timeout | setMaxDatagramSize => exact ⟨fun _ => trivial, fun _ => hr⟩

/-- **Recovery, exactly**: along a run of a new sender every recovery ends with the larger of its own
window and of the one just before it began, if and only if each ack that ends one finds that what was
remembered before it began is not larger than both. -/
theorem restored_iff_forgetsEarlier (mds : Nat) (now initNow : Time) (ops : List Op) :
    (∀ w ∈ Machine.states step { sender := newBBRv3Sender mds now initNow } ops, w.Restored) ↔
      Machine.EachStep step ForgetsEarlier { sender := newBBRv3Sender mds now initNow } ops := by
  have hinit : Saved { sender := newBBRv3Sender mds now initNow } := by
    refine ⟨steered_newBBRv3Sender mds now initNow, ?_⟩
    intro h
    contradiction
  exact Machine.forall_states_iff (I := Saved) (P := Restored)
    (fun _ op hw _ => saved_step op hw) (fun _ op hw hr => restored_step_iff op hw hr) ops _ hinit rfl

/-- A sender whose pipe is full after two acks, and a loss. -/
def firstLoss : List Op :=
  [.sent 0 1 1200, .sent 0 2 1200, .acked 1 1200 2400 50000000 0, .acked 2 1200 1200 60000000 0,
    .sent 60000000 3 1200, .lost 1200 70000000, .acked 3 1200 1200 110000000 0]

/-- The first recovery of a sender ends with the window before the loss. -/
theorem restored_firstLoss :
    ∀ w ∈ Machine.states step { sender := newBBRv3Sender 1200 0 0 } firstLoss, w.Restored := by
  refine (restored_iff_forgetsEarlier 1200 0 0 firstLoss).mpr ⟨trivial, trivial, fun _ _ _ => ?_,
    fun _ _ _ => ?_, trivial, trivial, fun _ _ _ => ?_, trivial⟩
  · decide +kernel
  · decide +kernel
  · decide +kernel

/-- A loss after an episode of ProbeRTT, which has left the sender with a window of 34 bytes. -/
def lossAfterProbeRtt : List Op :=
  [.sent 0 1 1200, .sent 0 2 1200, .acked 1 1200 2400 50000000 0, .acked 2 1200 1200 60000000 0,
    .sent 5100000000 3 1200, .acked 3 1200 1200 5200000000 0, .pacing 5600000000,
    .sent 5600000000 4 1200, .lost 1200 5700000000, .acked 4 1200 1200 5800000000 0]

/-- **Counterexample**: the loss finds a window of 34 bytes, and the recovery ends with the window
of 12000 bytes that ProbeRTT has saved. -/
theorem lossAfterProbeRtt_wrong :
    let start : RecoveryWatch := { sender := newBBRv3Sender 1200 0 0 }
    let inRecovery := Machine.run step start (lossAfterProbeRtt.take 9)
    inRecovery.sender.inRecoveryMode = true ∧ inRecovery.entry = 34 ∧
      (inRecovery.sender.beforeExit 4 1200 5800000000).cwnd = 4800 ∧
      (inRecovery.sender.ackSampled 4 1200 5800000000).cwnd = 12000 ∧
      ¬ (Machine.run step start lossAfterProbeRtt).Restored := by
  unfold Restored
  decide +kernel

end RecoveryWatch

end MoqQuic.BBRv3Sender
