import MoqQuic.Lib.Machine
import MoqQuic.Congestion.Bbrv3.Step

/-!
# MoqQuic.Congestion.Bbrv3.Window

The floor of the congestion window.

`setCwnd`, `boundCwndForModel` and the second branch of `OnCongestionEvent`
apply `config.minCwnd`; three writers do not:

* the first branch of `OnCongestionEvent` subtracts the lost bytes and stops;
* `boundCwndForProbeRtt` cuts the window to half the bandwidth-delay product;
* `SetMaxDatagramSize` raises the floor and leaves the window where it was.

`KeepsFloor` says of one call that it does not take one of these ways below the
floor, and `floor_iff_keepsFloor` that this is exact: a run stays on the floor in every
state if and only if each of its calls meets the condition.
-/

namespace MoqQuic.BBRv3Sender

/-- The window is at least `config.minCwnd`, and a sender with nothing in flight
can send. -/
def Floor (b : BBRv3Sender) : Prop := b.config.minCwnd ≤ b.cwnd ∧ b.canSend 0 = true

instance (b : BBRv3Sender) : Decidable b.Floor := inferInstanceAs (Decidable (_ ∧ _))

/-- The condition on a call, in the state before it, under which it keeps the
window on the floor. -/
def KeepsFloor (b : BBRv3Sender) : Op → Prop
  | .acked n bytes _ t _ =>
    -- the ack enters ProbeRTT, which allows half the product of the bandwidth sample
    b.ackUpdates n bytes t = true → b.core.Expired t →
      max b.config.minCwnd 1 ≤ b.core.probeWindow (min (b.ackSampled n bytes t).maxBw maxUint64)
  | .lost lost _ =>
    if b.lossWindow > lost then lost + b.config.minCwnd ≤ b.lossWindow
    else 0 < b.config.minCwnd
  | .setMaxDatagramSize size => minPipeCwndInSmss * size ≤ b.cwnd
  | _ => True

variable {b : BBRv3Sender}

theorem floor_iff_core : b.Floor ↔ max b.core.config.minCwnd 1 ≤ b.core.cwnd := by
  simp only [Floor, canSend, decide_eq_true_eq]
  change b.config.minCwnd ≤ b.cwnd ∧ 0 < b.cwnd ↔ max b.config.minCwnd 1 ≤ b.cwnd
  omega

/-- The model update keeps the floor unless it enters ProbeRTT, and then keeps it
exactly when the ProbeRTT window is on the floor. -/
theorem Core.floor_update (c : Core) (prior : Nat) (t : Time)
    (h : max c.config.minCwnd 1 ≤ c.cwnd) :
    max (c.update prior t).config.minCwnd 1 ≤ (c.update prior t).cwnd ↔
      (c.Expired t → max c.config.minCwnd 1 ≤ c.probeWindow (min c.maxBw maxUint64)) := by
  have hbase := Nat.le_trans h (c.le_baseCwnd prior)
  have hcap : max c.config.minCwnd 1 ≤ c.cap := by
    unfold Core.cap maxUint64
    omega
  unfold Core.update
  by_cases hexp : c.Expired t
  · rw [if_pos hexp]
    simp only [Core.expire, hexp, true_implies]
    omega
  · rw [if_neg hexp]
    simp only [Core.fresh, hexp, false_implies, iff_true]
    omega

theorem Core.age_cwnd (c : Core) (t : Time) :
    (c.age t).cwnd = c.cwnd ∧ (c.age t).config = c.config := by
  unfold Core.age
  split <;> exact ⟨rfl, rfl⟩

/-- An ack keeps the floor exactly under its condition. -/
theorem floor_onPacketAcked_iff (n bytes prior t clock : Nat) (hi : b.core.Inv) (hf : b.Floor) :
    (b.onPacketAcked n bytes prior t clock).Floor ↔ b.KeepsFloor (.acked n bytes prior t clock) := by
  rw [floor_iff_core] at hf ⊢
  simp only [KeepsFloor]
  cases hup : b.ackUpdates n bytes t with
  | true =>
    have hs := sampled_ackSampled b n bytes t
    obtain ⟨maxBw, hcore⟩ := core_processAck _ prior t clock (inv_ackSampled b n bytes t hi)
      (state_ackSampled b n bytes t hup)
    have hcfg : (b.ackSampled n bytes t).core.config.minCwnd = b.config.minCwnd := by
      rw [hs.config]
      rfl
    have hupd := Core.floor_update (b.ackSampled n bytes t).core prior t
      (by rw [hs.config]; exact Nat.le_trans hf hs.cwnd)
    rw [hs.expired_iff, hs.probeWindow_eq, hcfg] at hupd
    rw [onPacketAcked_of_updates b n bytes prior t clock hup, hcore, (Core.age_cwnd _ t).1,
      (Core.age_cwnd _ t).2]
    simp only [true_implies]
    exact hupd
  | false =>
    obtain ⟨hs, hw, -⟩ := onPacketAcked_of_not_updates b n bytes prior t clock hup
    rw [hs.config, hw]
    exact ⟨fun _ h => absurd h (by decide), fun _ => hf⟩

/-- A loss keeps the floor exactly under its condition. -/
theorem floor_onCongestionEvent_iff (lost clock : Nat) :
    (b.onCongestionEvent lost clock).Floor ↔ b.KeepsFloor (.lost lost clock) := by
  obtain ⟨prior, pc, rec, hcore⟩ := core_onCongestionEvent b lost clock
  rw [floor_iff_core, hcore]
  simp only [KeepsFloor]
  change max b.config.minCwnd 1 ≤
      (if b.lossWindow > lost then b.lossWindow - lost else b.config.minCwnd) ↔ _
  split <;> omega

/-- A retransmission timeout rebuilds the initial window, which is on the floor
of the configuration it keeps. -/
theorem floor_onRetransmissionTimeout (retransmitted : Bool) (now initNow : Time) (hi : b.core.Inv)
    (hf : b.Floor) : (b.onRetransmissionTimeout retransmitted now initNow).Floor := by
  unfold onRetransmissionTimeout
  split
  · have hmin : b.config.minCwnd = minPipeCwndInSmss * b.config.maxDatagramSize := hi.minCwnd
    have hsize : b.config.maxDatagramSize = b.maxDatagramSize ∨
        (b.maxDatagramSize = 0 ∧ b.config.maxDatagramSize = defaultMaxDatagramSize) := hi.size
    rw [floor_iff_core]
    change max b.config.minCwnd 1 ≤ (newConfig b.maxDatagramSize).initialCwnd
    rw [hmin]
    simp only [newConfig, minPipeCwndInSmss, defaultInitialCwnd]
    by_cases h0 : b.maxDatagramSize = 0
    · rw [if_pos h0]
      simp only [defaultMaxDatagramSize] at hsize ⊢
      omega
    · rw [if_neg h0]
      omega
  · exact hf

theorem floor_step_iff (op : Op) (hi : b.core.Inv) (hf : b.Floor) :
    (b.step op).Floor ↔ b.KeepsFloor op := by
  cases op with
  | sent | pacing =>
    refine ⟨fun _ => trivial, fun _ => ?_⟩
    rw [floor_iff_core] at hf ⊢
    simp only [BBRv3Sender.step, hasPacingBudget, core_onPacketSent, core_maybeExitProbeRTT]
    exact hf
  | acked n bytes prior t clock => exact floor_onPacketAcked_iff n bytes prior t clock hi hf
  | lost bytes clock => exact floor_onCongestionEvent_iff bytes clock
  | timeout retransmitted now initNow =>
    exact ⟨fun _ => trivial, fun _ => floor_onRetransmissionTimeout retransmitted now initNow hi hf⟩
  | setMaxDatagramSize size => exact ⟨fun h => h.1, fun h => ⟨h, hf.2⟩⟩

theorem floor_newBBRv3Sender (mds : Nat) (now initNow : Time) :
    (newBBRv3Sender mds now initNow).Floor := by
  rw [floor_iff_core, core_newBBRv3Sender]
  simp only [newConfig, minPipeCwndInSmss, defaultInitialCwnd, defaultMaxDatagramSize]
  split <;> omega

/-- **Window floor, exactly**: along a run of a new sender the window is at least
`config.minCwnd` and `CanSend(0)` holds in every state if and only if each call
meets `KeepsFloor` in the state before it. -/
theorem floor_iff_keepsFloor (mds : Nat) (now initNow : Time) (ops : List Op) :
    (∀ s ∈ Machine.states step (newBBRv3Sender mds now initNow) ops, s.Floor) ↔
      Machine.EachStep step KeepsFloor (newBBRv3Sender mds now initNow) ops :=
  Machine.forall_states_iff (fun b op hi _ => inv_step b op hi)
    (fun _ op hi hf => floor_step_iff op hi hf) ops _ (inv_newBBRv3Sender mds now initNow)
    (floor_newBBRv3Sender mds now initNow)

/-- Ten losses of 1199 bytes in Startup. -/
def tenLosses : List Op := List.replicate 10 (.lost 1199 0)

/-- **Counterexample**: ten lost packets of 1199 bytes leave a new sender with a
window of 10 bytes, far below the floor of 4800. -/
theorem floor_fails_after_tenLosses :
    ¬ ∀ s ∈ Machine.states step (newBBRv3Sender 1200 0 0) tenLosses, s.Floor := by
  intro h
  have hend := h _ (Machine.run_mem_states _ tenLosses)
  revert hend
  decide

end MoqQuic.BBRv3Sender
