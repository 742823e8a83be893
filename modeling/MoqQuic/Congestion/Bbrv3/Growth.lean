import MoqQuic.Congestion.Bbrv3.Gains
import MoqQuic.Congestion.Bbrv3.Window

/-!
# MoqQuic.Congestion.Bbrv3.Growth

The growth of the window in Startup.

The branches of `setCwnd` that compare the window with `maxInflight` hold only a comment, so an ack
outside recovery raises the window to `minCwnd` and no further (`cwnd_heard`). A new sender starts
above `minCwnd`: without losses its window never exceeds the initial one.
-/

namespace MoqQuic.BBRv3Sender

/-- The ack of new bytes runs `setCwnd` in Startup, outside recovery and without model bounds, and
finds the window below the new `maxInflight`. -/
structure GrowthDue (b : BBRv3Sender) (n bytes prior : Nat) (t clock : Time) : Prop where
  updates : b.ackUpdates n bytes t = true
  startup : b.state = .startup
  recovery : b.inRecoveryMode = false
  inflightHi : b.inflightHi = maxUint64
  inflightLo : b.inflightLo = maxUint64
  fresh : 0 < bytes
  stays : (b.onPacketAcked n bytes prior t clock).state = .startup
  below : b.cwnd < (b.onPacketAcked n bytes prior t clock).maxInflight

/-- **Window growth**: an ack for which growth is due adds its bytes, up to `maxInflight`. -/
def Grows (b : BBRv3Sender) : Op → Prop
  | .acked n bytes prior t clock => b.GrowthDue n bytes prior t clock →
      min (b.cwnd + bytes) (b.onPacketAcked n bytes prior t clock).maxInflight ≤
        (b.onPacketAcked n bytes prior t clock).cwnd
  | _ => True

/-- When growth is due, `minCwnd` has room for the new bytes or is all that `maxInflight` allows. -/
def WithinFloor (b : BBRv3Sender) : Op → Prop
  | .acked n bytes prior t clock => b.GrowthDue n bytes prior t clock →
      min (b.cwnd + bytes) (b.onPacketAcked n bytes prior t clock).maxInflight ≤ b.config.minCwnd
  | _ => True

/-- A call that neither reports a loss nor resets or reconfigures the sender. -/
def Op.LossFree : Op → Prop
  | .sent .. | .acked .. | .pacing _ => True
  | _ => False

variable {b : BBRv3Sender} {n bytes : Nat} {t sentTime : Time}

theorem heard_of_updates (h : b.ackUpdates n bytes t = true) :
    ∃ sentTime, b.Heard n bytes t sentTime := by
  unfold ackUpdates at h
  cases hn : b.sentTimes n with
  | none => simp [hn] at h
  | some sentTime =>
    simp only [hn, Bool.and_eq_true, decide_eq_true_eq] at h
    exact ⟨sentTime, hn, h.1⟩

/-- Outside recovery, the model update of an ack that is heard finds the old window, and packet
conservation has ended with the round. -/
theorem baseCwnd_heard (hs : b.Started) (h : b.Heard n bytes t sentTime)
    (hrec : b.inRecoveryMode = false) (prior : Nat) :
    (b.ackSampled n bytes t).core.baseCwnd prior = max b.cwnd b.config.minCwnd := by
  obtain ⟨rtt, stamp, -, harrived⟩ := core_ackArrived b n bytes sentTime t
  have hsample := core_sampleAck (b.ackArrived n bytes sentTime t) t
  rw [harrived, packetConservation_sampleAck (arrived_ackArrived b n bytes sentTime t) hs] at hsample
  have hmode : ((b.ackArrived n bytes sentTime t).sampleAck t).inRecoveryMode = false :=
    (congrArg Core.inRecoveryMode hsample).trans hrec
  rw [ackSampled_eq h.1, core_leaveRecovery, hmode, if_neg Bool.false_ne_true, hsample]
  rfl

/-- **The window after an ack** outside recovery. -/
theorem cwnd_heard (hb : b.Steered) (h : b.Heard n bytes t sentTime)
    (hrec : b.inRecoveryMode = false) (prior : Nat) (clock : Time) :
    let b' := (b.ackSampled n bytes t).processAck prior t clock
    b'.cwnd ≤ max b.cwnd b.config.minCwnd ∧
      (b'.state ≠ .probeRTT → b'.cwnd = min (max b.cwnd b.config.minCwnd) b.core.cap) := by
  obtain ⟨maxBw, hcore⟩ := core_processAck _ prior t clock (inv_ackSampled b n bytes t hb.core)
    (h.state hb.started)
  have hbase := baseCwnd_heard hb.started h hrec prior
  have hcap : (b.ackSampled n bytes t).core.cap = b.core.cap := by
    unfold Core.cap
    rw [(sampled_ackSampled b n bytes t).config]
  have hcwnd := (congrArg Core.cwnd hcore).trans (Core.age_cwnd _ t).1
  intro b'
  change b'.cwnd = _ at hcwnd
  unfold Core.update at hcwnd hcore
  by_cases hexp : (b.ackSampled n bytes t).core.Expired t
  · rw [if_pos hexp] at hcwnd hcore
    simp only [Core.expire, hbase] at hcwnd
    have hin : b'.core.inProbeRTT = true := by
      rw [hcore]
      unfold Core.age
      split <;> rfl
    exact ⟨by omega, fun hst => absurd ((core_inProbeRTT b').mp hin) hst⟩
  · rw [if_neg hexp] at hcwnd
    simp only [Core.fresh, hbase, hcap] at hcwnd
    exact ⟨by omega, fun _ => hcwnd⟩

/-- A call grows the window exactly when the floor does it. -/
theorem grows_iff (op : Op) (hb : b.Steered) : b.Grows op ↔ b.WithinFloor op := by
  cases op with
  | acked n bytes prior t clock =>
    refine forall_congr' fun hdue => ?_
    obtain ⟨sentTime, h⟩ := heard_of_updates hdue.updates
    have hacked := onPacketAcked_of_updates b n bytes prior t clock hdue.updates
    have hst := hdue.stays
    have hbelow := hdue.below
    have hbytes := hdue.fresh
    obtain ⟨-, hcwnd⟩ := cwnd_heard hb h hdue.recovery prior clock
    rw [← hacked] at hcwnd
    have hcap : b.config.minCwnd ≤ b.core.cap := Nat.le_max_right _ _
    have heq := hcwnd (by rw [hst]; decide)
    omega
  | _ => exact Iff.rfl

/-- A sender that has seen no loss. -/
structure Calm (initial : Nat) (b : BBRv3Sender) : Prop where
  steered : b.Steered
  recovery : b.inRecoveryMode = false
  minCwnd : b.config.minCwnd ≤ initial
  cwnd : b.cwnd ≤ initial

theorem calm_step {initial : Nat} (op : Op) (hb : b.Calm initial) (hop : op.LossFree) :
    (b.step op).Calm initial := by
  have hs := steered_step op hb.steered
  cases op with
  | acked n bytes prior t clock =>
    dsimp only [step] at hs ⊢
    obtain ⟨-, _, _, _, _, _, _, _, he, -⟩ | ⟨sentTime, h, he⟩ :=
      onPacketAcked_of_started b hb.steered.started n bytes prior t clock
    · rw [he] at hs ⊢
      exact ⟨hs, hb.recovery, hb.minCwnd, hb.cwnd⟩
    · rw [he] at hs ⊢
      refine ⟨hs, inRecoveryMode_heard hb.steered h prior clock, ?_, ?_⟩
      · rw [(processAck_measures _ prior t clock).2.2.1,
          (sampled_of_heard hb.steered.started h).config]
        exact hb.minCwnd
      · exact (cwnd_heard hb.steered h hb.recovery prior clock).1.trans (Nat.max_le.mpr ⟨hb.cwnd, hb.minCwnd⟩)
  | sent sentTime n bytes =>
    obtain ⟨next, he⟩ := b.onPacketSent_eq sentTime n bytes
    rw [step, he] at hs ⊢
    exact ⟨hs, hb.recovery, hb.minCwnd, hb.cwnd⟩
  | pacing now =>
    have hcore := core_maybeExitProbeRTT b now
    exact ⟨hs, (congrArg Core.inRecoveryMode hcore).trans hb.recovery,
      (congrArg (·.config.minCwnd) hcore).trans_le hb.minCwnd,
      (congrArg Core.cwnd hcore).trans_le hb.cwnd⟩
  | lost | timeout | setMaxDatagramSize => exact hop.elim

/-- **Growth, exactly**: along a run of a new sender every ack for which growth is due grows the
window if and only if each such ack stays within the floor; and without losses the window never
exceeds the initial one. -/
theorem grows_iff_withinFloor (mds : Nat) (now initNow : Time) (ops : List Op) :
    (Machine.EachStep step Grows (newBBRv3Sender mds now initNow) ops ↔
      Machine.EachStep step WithinFloor (newBBRv3Sender mds now initNow) ops) ∧
    (Machine.EachStep step (fun _ op => op.LossFree) (newBBRv3Sender mds now initNow) ops →
      ∀ b ∈ Machine.states step (newBBRv3Sender mds now initNow) ops,
        b.cwnd ≤ (newBBRv3Sender mds now initNow).cwnd) := by
  have hinit := steered_newBBRv3Sender mds now initNow
  refine ⟨Machine.eachStep_congr (I := Steered) (fun _ op => steered_step op)
    (fun _ op => grows_iff op) ops _ hinit, fun hfree b hb => ?_⟩
  have hfloor := (floor_newBBRv3Sender mds now initNow).1
  exact (Machine.states_of_eachStep ops _ (fun b op _ hc hop => calm_step op hc hop) hfree
    ⟨hinit, rfl, hfloor, Nat.le_refl _⟩ b hb).cwnd

/-- A loss leaves 1200 bytes of window, and the next ack brings 1200 bytes. -/
def belowFloor : List Op := [.sent 0 1 1200, .lost 10800 0, .acked 1 1200 1200 50000000 0]

theorem grows_belowFloor : Machine.EachStep step Grows (newBBRv3Sender 1200 0 0) belowFloor := by
  refine (grows_iff_withinFloor 1200 0 0 belowFloor).1.mpr ⟨trivial, trivial, fun _ => ?_, trivial⟩
  decide +kernel

/-- **Counterexample**: the first ack of a new sender finds a window of 12000 bytes below a
`maxInflight` of 33240 and leaves it there; without losses it never grows. -/
theorem firstAck_stalls :
    let b := Machine.run step (newBBRv3Sender 1200 0 0) [.sent 0 1 1200]
    b.GrowthDue 1 1200 1200 50000000 0 ∧
      (b.onPacketAcked 1 1200 1200 50000000 0).maxInflight = 33240 ∧
      (b.onPacketAcked 1 1200 1200 50000000 0).cwnd = 12000 ∧
      ¬ b.Grows (.acked 1 1200 1200 50000000 0) := by
  intro b
  have hdue : b.GrowthDue 1 1200 1200 50000000 0 := by
    constructor <;> decide +kernel
  have hmax : (b.onPacketAcked 1 1200 1200 50000000 0).maxInflight = 33240 := by decide +kernel
  have hcwnd : (b.onPacketAcked 1 1200 1200 50000000 0).cwnd = 12000 := by decide +kernel
  have hstart : b.cwnd = 12000 := by decide +kernel
  refine ⟨hdue, hmax, hcwnd, fun h => ?_⟩
  have hgrows : min (b.cwnd + 1200) (b.onPacketAcked 1 1200 1200 50000000 0).maxInflight ≤
      (b.onPacketAcked 1 1200 1200 50000000 0).cwnd := h hdue
  omega

end MoqQuic.BBRv3Sender
