import MoqQuic.Lib.Machine
import MoqQuic.Congestion.Bbrv3.Step

/-!
# MoqQuic.Congestion.Bbrv3.ProbeRtt

When ProbeRTT can be left.

Both exits of ProbeRTT need a positive `probeRttDoneStamp`.  The entry through
the min-RTT expiry clears the stamp and sets it again only if the bytes in
flight fit the ProbeRTT window at that very moment; every later ack returns
before `handleProbeRtt`, so a stamp that was missed is never set.  Such a
sender is in ProbeRTT for good (`trapped_of_unstamped`).

`noTrap_iff_stampsOnEntry` is exact: a run never reaches a trap if and only if
each ack that enters ProbeRTT stamps its end.
-/

namespace MoqQuic.BBRv3Sender

/-! ## traps -/

/-- A sender in ProbeRTT has an end of the episode stamped. -/
def Stamped (b : BBRv3Sender) : Prop := b.state = .probeRTT → b.probeRttDoneStamp > 0

/-- A call other than `OnRetransmissionTimeout`. -/
def Op.NoTimeout : Op → Prop
  | .timeout .. => False
  | _ => True

/-- The sender is in ProbeRTT, and no sequence of calls without a retransmission
timeout takes it out. -/
def Trapped (b : BBRv3Sender) : Prop :=
  b.state = .probeRTT ∧
    ∀ ops : List Op, (∀ op ∈ ops, op.NoTimeout) → (Machine.run step b ops).state = .probeRTT

/-- ProbeRTT is no trap: its end is stamped, from `probeRttDuration` after the
stamp on both `HasPacingBudget` and the ack of a known packet leave it, and some
further calls do take the sender out. -/
def NoTrap (b : BBRv3Sender) : Prop :=
  b.state = .probeRTT → b.probeRttDoneStamp > 0 ∧
    (∀ t : Time, t ≥ b.probeRttDoneStamp + b.config.probeRttDuration →
      (b.hasPacingBudget t).2.state ≠ .probeRTT ∧
      ∀ n bytes sentTime, b.sentTimes n = some sentTime →
        (b.ackArrived n bytes sentTime t).state ≠ .probeRTT) ∧
    ¬ b.Trapped

/-- The condition on a call, in the state before it, under which it stamps the
end of the ProbeRTT episode it enters. -/
def StampsOnEntry (b : BBRv3Sender) : Op → Prop
  | .acked n bytes prior t _ =>
    b.ackUpdates n bytes t = true → b.core.Expired t → prior ≤ b.core.probeWindow b.bw
  | _ => True

variable {b : BBRv3Sender}

theorem stamped_iff_core : b.Stamped ↔ (b.core.inProbeRTT = true → b.core.probeRttDoneStamp > 0) := by
  rw [core_inProbeRTT]
  rfl

/-- A stamped sender leaves once the duration has passed. -/
theorem Core.leave_inProbeRTT {c : Core} {t : Time} (hs : c.probeRttDoneStamp > 0)
    (ht : t ≥ c.probeRttDoneStamp + c.config.probeRttDuration) : (c.leave t).inProbeRTT = false := by
  by_cases hp : c.inProbeRTT = true
  · have hcan : c.CanLeave t := ⟨hp, hs, by grind⟩
    simp [Core.leave, hcan]
  · simp [Core.leave, hp]

/-- Stamped and trap-free are the same. -/
theorem noTrap_iff_stamped : b.NoTrap ↔ b.Stamped := by
  constructor
  · intro h hst
    exact (h hst).1
  · intro h hst
    have hpos : b.core.probeRttDoneStamp > 0 := h hst
    have hleave : ∀ t : Time, t ≥ b.probeRttDoneStamp + b.config.probeRttDuration →
        (b.hasPacingBudget t).2.state ≠ .probeRTT := by
      intro t ht
      rw [Ne, ← core_inProbeRTT]
      change ¬ (b.maybeExitProbeRTT t).core.inProbeRTT = true
      rw [core_maybeExitProbeRTT, Bool.not_eq_true]
      exact Core.leave_inProbeRTT hpos ht
    refine ⟨h hst, fun t ht => ⟨hleave t ht, ?_⟩, ?_⟩
    · intro n bytes sentTime _
      obtain ⟨rtt, stamp, -, hcore⟩ := core_ackArrived b n bytes sentTime t
      rw [Ne, ← core_inProbeRTT, hcore, Bool.not_eq_true]
      exact Core.leave_inProbeRTT hpos ht
    · intro htrap
      let now := (b.probeRttDoneStamp + b.config.probeRttDuration).toNat
      have hnow : (now : Time) ≥ b.probeRttDoneStamp + b.config.probeRttDuration :=
        Int.self_le_toNat _
      exact hleave now hnow (htrap.2 [.pacing now] (by simp [Op.NoTimeout]))

/-! ## an unstamped sender never leaves -/

theorem Core.leave_of_unstamped {c : Core} {t : Time} (h : c.probeRttDoneStamp = 0) :
    c.leave t = c := by
  have hno : ¬ c.CanLeave t := by
    rintro ⟨-, hpos, -⟩
    rw [h] at hpos
    contradiction
  simp [Core.leave, hno]

theorem unstamped_step (op : Op) (hop : op.NoTimeout)
    (h : b.core.inProbeRTT = true ∧ b.core.probeRttDoneStamp = 0) :
    (b.step op).core.inProbeRTT = true ∧ (b.step op).core.probeRttDoneStamp = 0 := by
  cases op with
  | sent sentTime n bytes =>
    change (b.onPacketSent sentTime n bytes).core.inProbeRTT = true ∧
      (b.onPacketSent sentTime n bytes).core.probeRttDoneStamp = 0
    rw [core_onPacketSent]
    exact h
  | acked n bytes prior t clock =>
    change (b.onPacketAcked n bytes prior t clock).core.inProbeRTT = true ∧
      (b.onPacketAcked n bytes prior t clock).core.probeRttDoneStamp = 0
    unfold onPacketAcked
    cases hs : b.sentTimes n with
    | none => exact h
    | some sentTime =>
      obtain ⟨rtt, stamp, -, hcore⟩ := core_ackArrived b n bytes sentTime t
      have hsame := hcore.trans (Core.leave_of_unstamped h.2)
      have hst : (b.ackArrived n bytes sentTime t).state = .probeRTT := by
        rw [← core_inProbeRTT, hsame]
        exact h.1
      dsimp only
      rw [if_pos hst, hsame]
      exact h
  | lost bytes clock =>
    obtain ⟨pc, pk, rec, hcore⟩ := core_onCongestionEvent b bytes clock
    change (b.onCongestionEvent bytes clock).core.inProbeRTT = true ∧
      (b.onCongestionEvent bytes clock).core.probeRttDoneStamp = 0
    rw [hcore]
    exact h
  | pacing t =>
    change (b.maybeExitProbeRTT t).core.inProbeRTT = true ∧
      (b.maybeExitProbeRTT t).core.probeRttDoneStamp = 0
    rw [core_maybeExitProbeRTT, Core.leave_of_unstamped h.2]
    exact h
  | timeout retransmitted now initNow => exact hop.elim
  | setMaxDatagramSize size => exact h

/-- **The trap**: without a stamp, ProbeRTT is never left. -/
theorem trapped_of_unstamped (hst : b.state = .probeRTT) (hs : b.probeRttDoneStamp = 0) :
    b.Trapped := by
  refine ⟨hst, ?_⟩
  intro ops hops
  have hrun : ∀ (ops : List Op) (s : BBRv3Sender), (∀ op ∈ ops, op.NoTimeout) →
      s.core.inProbeRTT = true ∧ s.core.probeRttDoneStamp = 0 →
      (Machine.run step s ops).core.inProbeRTT = true := by
    intro ops
    induction ops with
    | nil => intro s _ h; exact h.1
    | cons op ops ih =>
      intro s hno h
      rw [List.forall_mem_cons] at hno
      exact ih _ hno.2 (unstamped_step op hno.1 h)
  exact (core_inProbeRTT _).mp (hrun ops b hops ⟨(core_inProbeRTT b).mpr hst, hs⟩)

/-! ## one call -/

/-- The invariant of the trap theorem: the stamp is never negative. -/
def StampInv (b : BBRv3Sender) : Prop := b.core.Inv ∧ 0 ≤ b.core.probeRttDoneStamp

/-- The model update stamps a non-negative time, and leaves an unstamped episode
exactly when the min-RTT estimate has expired with too much in flight. -/
theorem Core.stamp_update {c : Core} (prior t maxBw : Nat) (hi : c.Inv)
    (hp : c.inProbeRTT = false) (hs : 0 ≤ c.probeRttDoneStamp) :
    0 ≤ (({ c.update prior t with maxBw := maxBw } : Core).age t).probeRttDoneStamp ∧
      (((({ c.update prior t with maxBw := maxBw } : Core).age t).inProbeRTT = true →
          (({ c.update prior t with maxBw := maxBw } : Core).age t).probeRttDoneStamp > 0) ↔
        (c.Expired t → prior ≤ c.probeWindow c.bw)) := by
  have hdur : c.config.probeRttDuration = 200000000 := hi.probeRttDuration
  have hten : 10 * second = 10000000000 := rfl
  unfold Core.update
  by_cases hexp : c.Expired t
  · -- the entry stamps the min-RTT with the time of the ack, so `age` cannot fire
    have hage : ¬ ((t : Time) - (c.expire prior t).minRttStamp ≥ 10 * second ∧
        (t : Time) - (c.expire prior t).probeRttDoneStamp ≥ 10 * second) := by
      simp only [Core.expire, hten]
      grind
    rw [if_pos hexp, Core.age, if_neg hage]
    simp only [Core.expire, hexp, true_implies, hdur]
    split <;> grind
  · rw [if_neg hexp]
    simp only [hexp, false_implies, iff_true]
    unfold Core.age
    split
    · next h =>
      have h2 : (t : Time) - c.probeRttDoneStamp ≥ 10 * second := h.2
      rw [hten] at h2
      exact ⟨Int.natCast_nonneg t, fun _ => by grind⟩
    · refine ⟨hs, fun h => ?_⟩
      change c.inProbeRTT = true at h
      rw [hp] at h
      contradiction

/-- A step that keeps the stamp and does not enter ProbeRTT keeps `Stamped`. -/
theorem stamped_of_core {s : BBRv3Sender} (hs : b.Stamped)
    (hp : s.core.inProbeRTT = true → b.core.inProbeRTT = true)
    (hd : s.core.probeRttDoneStamp = b.core.probeRttDoneStamp) : s.Stamped := by
  rw [stamped_iff_core] at hs ⊢
  intro h
  rw [hd]
  exact hs (hp h)

theorem stamped_onPacketAcked_iff (n bytes prior t clock : Nat) (hi : b.StampInv) (hs : b.Stamped) :
    0 ≤ (b.onPacketAcked n bytes prior t clock).core.probeRttDoneStamp ∧
      ((b.onPacketAcked n bytes prior t clock).Stamped ↔
        b.StampsOnEntry (.acked n bytes prior t clock)) := by
  obtain ⟨hinv, hpos⟩ := hi
  simp only [StampsOnEntry]
  cases hup : b.ackUpdates n bytes t with
  | true =>
    have hsam := sampled_ackSampled b n bytes t
    have hne := state_ackSampled b n bytes t hup
    have hout : (b.ackSampled n bytes t).core.inProbeRTT = false := by
      rw [← Bool.not_eq_true]
      exact mt (core_inProbeRTT _).mp hne
    obtain ⟨maxBw, hcore⟩ := core_processAck _ prior t clock (inv_ackSampled b n bytes t hinv) hne
    obtain ⟨hnn, hiff⟩ := Core.stamp_update prior t maxBw
      (inv_ackSampled b n bytes t hinv) hout (by rw [hsam.probeRttDoneStamp]; exact hpos)
    rw [hsam.expired_iff, hsam.probeWindow_eq, hsam.bw] at hiff
    rw [stamped_iff_core, onPacketAcked_of_updates b n bytes prior t clock hup, hcore]
    simp only [true_implies]
    exact ⟨hnn, hiff⟩
  | false =>
    obtain ⟨hsam, -, hin⟩ := onPacketAcked_of_not_updates b n bytes prior t clock hup
    have hd := hsam.probeRttDoneStamp
    rw [hd]
    exact ⟨hpos, fun _ h => absurd h (by decide), fun _ => stamped_of_core hs hin hd⟩

/-- **One call** keeps the stamp non-negative, and leaves a stamped sender stamped
exactly under its condition. -/
theorem stamped_step_iff (op : Op) (hi : b.StampInv) (hs : b.Stamped) :
    0 ≤ (b.step op).core.probeRttDoneStamp ∧ ((b.step op).Stamped ↔ b.StampsOnEntry op) := by
  cases op with
  | sent sentTime n bytes =>
    have hcore := core_onPacketSent b sentTime n bytes
    change 0 ≤ (b.onPacketSent sentTime n bytes).core.probeRttDoneStamp ∧
      ((b.onPacketSent sentTime n bytes).Stamped ↔ True)
    rw [stamped_iff_core, hcore, iff_true]
    exact ⟨hi.2, stamped_iff_core.mp hs⟩
  | acked n bytes prior t clock => exact stamped_onPacketAcked_iff n bytes prior t clock hi hs
  | lost bytes clock =>
    obtain ⟨pc, pk, rec, hcore⟩ := core_onCongestionEvent b bytes clock
    change 0 ≤ (b.onCongestionEvent bytes clock).core.probeRttDoneStamp ∧
      ((b.onCongestionEvent bytes clock).Stamped ↔ True)
    rw [stamped_iff_core, hcore, iff_true]
    exact ⟨hi.2, stamped_iff_core.mp hs⟩
  | pacing t =>
    have hcore := core_maybeExitProbeRTT b t
    change 0 ≤ (b.maybeExitProbeRTT t).core.probeRttDoneStamp ∧
      ((b.maybeExitProbeRTT t).Stamped ↔ True)
    rw [stamped_iff_core, hcore, iff_true]
    exact ⟨hi.2, fun h => stamped_iff_core.mp hs (Core.leave_stays h)⟩
  | timeout retransmitted now initNow =>
    change 0 ≤ (b.onRetransmissionTimeout retransmitted now initNow).core.probeRttDoneStamp ∧
      ((b.onRetransmissionTimeout retransmitted now initNow).Stamped ↔ True)
    unfold onRetransmissionTimeout
    split
    · -- the reset sender is a new one, in Startup
      have hout : (newBBRv3Sender b.maxDatagramSize now initNow).core.inProbeRTT = false := rfl
      refine ⟨Int.le_refl 0, ?_⟩
      rw [stamped_iff_core, iff_true]
      intro h
      change (newBBRv3Sender b.maxDatagramSize now initNow).core.inProbeRTT = true at h
      rw [hout] at h
      contradiction
    · exact ⟨hi.2, iff_true_intro hs⟩
  | setMaxDatagramSize size => exact ⟨hi.2, iff_true_intro hs⟩

/-! ## whole runs -/

/-- Three packets whose acks come after one, two and six seconds. -/
def slowAcks : List Op :=
  [.sent 0 1 1200, .sent 0 2 1200, .sent 0 3 1200, .acked 1 1200 3600 1000000000 0,
    .acked 2 1200 2400 2000000000 0, .acked 3 1200 1200 6000000000 0]

end MoqQuic.BBRv3Sender
