import MoqQuic.Quic.SentPacketHandler

/-!
# MoqQuic.Quic.SentPacketHandler.Backoff

The backoff of the probe timeout.

`getScaledPTO` doubles the PTO with each expiry by a shift on 64 bits, and takes a result that is
not positive for an overflow.  A shift can also lose its upper bits and leave a positive rest, which
is then taken for the timeout although it is shorter than the one before.
-/

namespace MoqQuic.Quic.SentPacketHandler

variable {φ : Type}

/-- The shifted PTO is no longer than the maximum, or its lower 64 bits do not look as if it were
shorter. -/
def ShiftDetected (pto : Duration) (ptoCount : Nat) : Prop :=
  pto * 2 ^ ptoCount ≤ maxPTODuration ∨ pto * 2 ^ ptoCount % 2 ^ 64 = 0 ∨
    maxPTODuration ≤ pto * 2 ^ ptoCount % 2 ^ 64

/-- **Backoff**: the timeout is positive and at most the maximum, and it is the PTO that is doubled
with each expiry, up to the maximum, exactly if the shift is detected. -/
theorem getScaledPTO_saturates_iff (h : SentPacketHandler φ) {pto : Duration} (hpto : 0 < pto) :
    0 < h.getScaledPTO pto ∧ h.getScaledPTO pto ≤ maxPTODuration ∧
      (h.getScaledPTO pto = min maxPTODuration (pto * 2 ^ h.ptoCount) ↔
        ShiftDetected pto h.ptoCount) := by
  have hmax : maxPTODuration = 60000000000 := rfl
  have hpos : 0 < pto * 2 ^ h.ptoCount := Int.mul_pos hpto (Int.pow_pos (by decide))
  simp only [getScaledPTO, ShiftDetected, hmax]
  generalize pto * 2 ^ h.ptoCount = scaled at hpos ⊢
  rw [Int.bmod_def, Int.min_def]
  grind

/-- A client whose PTO expires `n` times while it waits for the server to validate its address. -/
def expired : Nat → Except HandlerPanic (SentPacketHandler Unit)
  | 0 => .ok (newSentPacketHandler 0 false .client false 0)
  | n + 1 => do return (← (← expired n).onLossDetectionTimeout 1 ⟨0, 0, 1, 1⟩ 0).1

/-- Each expiry counts, and nothing else happens to the client. -/
theorem expired_eq (n : Nat) : expired n = .ok { newSentPacketHandler 0 false .client false 0 with
    ptoCount := n, numProbesToSend := n
    ptoMode := if n = 0 then .sendNone else .sendPTOInitial } := by
  induction n with
  | zero => rfl
  | succ n ih =>
    simp only [expired, ih]
    rfl

theorem getScaledPTO_two_expiries :
    ∃ h, expired 2 = .ok h ∧ h.getScaledPTO (200 * millisecond) = 800 * millisecond := by
  refine ⟨_, expired_eq 2, ?_⟩
  rw [(getScaledPTO_saturates_iff _ (by decide)).2.2.mpr (.inl (by decide))]
  rfl

/-- **Counterexample**: 0.5 s of PTO back off to 34 s after 35 expiries, not to 60 s. -/
theorem getScaledPTO_wraps :
    ∃ h, expired 34 = .ok h ∧ h.getScaledPTO 536870913 = maxPTODuration ∧
      ∃ h', expired 35 = .ok h' ∧ h'.getScaledPTO 536870913 = 34359738368 :=
  ⟨_, expired_eq 34, by decide, _, expired_eq 35, by decide⟩

end MoqQuic.Quic.SentPacketHandler
