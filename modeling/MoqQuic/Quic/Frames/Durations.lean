import MoqQuic.Quic.Frames.Codec

/-!
# MoqQuic.Quic.Frames.Durations

The durations that a peer announces, in nanoseconds on 64 bits.

A negative product is taken for an overflow.  A product may also wrap around to a positive number,
and that of the idle timeout is not looked at.
-/

namespace MoqQuic.Quic

def MinRemoteIdleTimeout : Duration := 5000000000

/-- The `max_idle_timeout` that `readNumericTransportParameter` stores. -/
def readMaxIdleTimeout (val : Nat) : Duration :=
  max MinRemoteIdleTimeout (int64 (int64 val * 1000000))

/-- The `min_ack_delay` that `readNumericTransportParameter` stores. -/
def readMinAckDelay (val : Nat) : Duration :=
  let mad := int64 (int64 val * 1000)
  if mad < 0 then MaxInt64 else mad

/-- The check of `unmarshal`. -/
def minAckDelayTooLarge (minAckDelay : Option Duration) (maxAckDelay : Duration) : Bool :=
  minAckDelay.any (maxAckDelay < ·)

def saturate (x : Nat) : Duration := min x MaxInt64

/-- The product is within 64 bits, or its lower 64 bits are not less than the maximum. -/
def OverflowDetected (x : Nat) : Prop := x ≤ MaxInt64 ∨ MaxInt64 ≤ (x % 2 ^ 64 : Nat)

theorem int64_mul_int64 (x y : Int) : int64 (int64 x * y) = int64 (x * y) := Int.bmod_mul_bmod

theorem saturate_iff (x : Nat) :
    (if int64 x < 0 then MaxInt64 else int64 x) = saturate x ↔ OverflowDetected x := by
  rw [saturate, OverflowDetected, int64, MaxInt64, Int.bmod_def]
  omega

/-- **Durations saturate, exactly** if the overflow is detected; that of the idle timeout never is.
A `min_ack_delay` that saturates is compared by its true value. -/
theorem durations_saturate_iff (v exponent : Nat) (maxAckDelay : Duration) :
    (decodeAckDelay v exponent = saturate (v * 2 ^ exponent * 1000) ↔
      OverflowDetected (v * 2 ^ exponent * 1000)) ∧
    (AckFrequencyFrame.decodeMaxAckDelay v = saturate (v * 1000) ↔
      OverflowDetected (v * 1000)) ∧
    (readMinAckDelay v = saturate (v * 1000) ↔ OverflowDetected (v * 1000)) ∧
    (readMaxIdleTimeout v = max MinRemoteIdleTimeout (saturate (v * 1000000)) ↔
      v * 1000000 ≤ MaxInt64) ∧
    (OverflowDetected (v * 1000) → maxAckDelay < MaxInt64 →
      (minAckDelayTooLarge (some (readMinAckDelay v)) maxAckDelay ↔ maxAckDelay < v * 1000)) := by
  have hmin : readMinAckDelay v = saturate (v * 1000) ↔ OverflowDetected (v * 1000) := by
    simp [← saturate_iff, readMinAckDelay, int64_mul_int64]
  refine ⟨?_, hmin, hmin, ?_, fun hdetected hmax => ?_⟩
  · have hshift : int64 (uint64 (v <<< exponent : Nat)) = int64 (v <<< exponent : Nat) := by
      rw [int64, int64, uint64, Int.bmod_def, Int.bmod_def]
      omega
    simp only [decodeAckDelay, hshift]
    simp [← saturate_iff, int64_mul_int64, Nat.shiftLeft_eq]
  · rw [readMaxIdleTimeout, int64_mul_int64, int64, saturate, MinRemoteIdleTimeout, MaxInt64,
      Int.bmod_def]
    grind
  · rw [minAckDelayTooLarge, hmin.mpr hdetected, saturate]
    simp only [Option.any_some, decide_eq_true_eq]
    grind

/-- **Counterexample**: 2^61 µs are no delay, less than any maximum, and 2^58 ms are a short idle
timeout. -/
theorem durations_wrap :
    readMinAckDelay (2 ^ 61) = 0 ∧ minAckDelayTooLarge (some 0) 0 = false ∧
      readMaxIdleTimeout (2 ^ 58) = MinRemoteIdleTimeout := by decide

end MoqQuic.Quic
