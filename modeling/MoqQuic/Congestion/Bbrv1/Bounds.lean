import Mathlib.Tactic.IntervalCases
import MoqQuic.Congestion.Bbrv1.Delivered

/-!
# MoqQuic.Congestion.Bbrv1.Bounds

The bounds within which the BBRv1 sender stays, whatever it is told: on the minimal RTT, the
bandwidth, the gains and the congestion window.

The lower bound of the bandwidth is computed from the minimal RTT and the datagram size, so it is
positive while the RTT is at most ten seconds; the window is computed from both.
-/

namespace MoqQuic.BBRv1Sender

open Machine

variable {b : BBRv1Sender} {t : Time}

/-- What every call keeps. -/
structure Bounded (b : BBRv1Sender) : Prop where
  size : 0 < b.maxDatagramSize
  rtt : 0 < b.lastNewMinRTT
  rtt_le : b.lastNewMinRTT ≤ 10 * second
  bandwidth : 0 < b.maxBandwidth
  pacing : 0 < b.pacingGain
  window : 1 ≤ b.cwndGain

theorem le_truncateInt {n : Int} {q : ℚ} (hn : 0 ≤ n) (hq : n ≤ q) : n ≤ truncateInt q := by
  have hpos : (0 : ℚ) ≤ n := by exact_mod_cast hn
  rw [truncateInt, if_pos (hpos.trans hq)]
  exact Int.le_floor.mpr hq

theorem minMaxbandwidth_pos (hsize : 0 < b.maxDatagramSize) (hrtt : 0 < b.lastNewMinRTT)
    (hle : b.lastNewMinRTT ≤ 10 * second) : 0 < b.minMaxbandwidth := by
  have hsize' : (1 : ℚ) ≤ b.maxDatagramSize := by exact_mod_cast hsize
  have hrtt' : (0 : ℚ) < b.lastNewMinRTT := by exact_mod_cast hrtt
  have hle' : (b.lastNewMinRTT : ℚ) ≤ 10 * 1000000000 := by exact_mod_cast hle
  refine Int.lt_of_add_one_le (le_truncateInt (by decide) ?_)
  rw [mul_div, le_div_iff₀ hrtt']
  push_cast [minBdp]
  linarith

theorem probeBWCycleGain_pos (n : Nat) : 0 < probeBWCycleGain.getD (n % 8) 0 := by
  have hlt := Nat.mod_lt n (by decide : 8 > 0)
  interval_cases n % 8 <;> decide +kernel

theorem le_foldl_max (l : List Int) (n : Int) : n ≤ l.foldl max n := by
  induction l generalizing n with
  | nil => exact le_rfl
  | cons m l ih => exact (le_max_left n m).trans (ih _)

section

variable (hb : Bounded b)
include hb

theorem Bounded.entryProbeBW : Bounded b.entryProbeBW :=
  { hb with pacing := probeBWCycleGain_pos _, window := one_le_two }

theorem Bounded.mayExitProbeRTT (t : Time) : Bounded (b.mayExitProbeRTT t) :=
  iteInduction (fun _ => hb.entryProbeBW) fun _ => hb

theorem Bounded.recordAck (n : Nat) (bytes : Int) (t : Time) : Bounded (b.recordAck n bytes t) := by
  have hb' : Bounded { b with sentTimes := Function.update b.sentTimes n none } := { hb with }
  have hexit := hb'.mayExitProbeRTT t
  unfold BBRv1Sender.recordAck
  dsimp only
  split
  · next hrtt => exact { hexit with rtt := hrtt.2, rtt_le := hrtt.1.le.trans hexit.rtt_le }
  · exact { hexit with }

theorem Bounded.filter (t : Time) : Bounded (b.updateLastbandwidthFilter t).2 := { hb with }

theorem Bounded.exitRecover : Bounded b.exitRecover := by
  unfold BBRv1Sender.exitRecover
  dsimp only
  split
  · exact { hb with pacing := by norm_num }
  · exact { hb with pacing := by norm_num }
  · exact { hb with pacing := by norm_num }
  · exact { hb with }

/-- After a round the bandwidth is not below its lower bound. -/
theorem Bounded.updateMaxbandwidthFilter : Bounded b.updateMaxbandwidthFilter :=
  { hb with
    bandwidth := (minMaxbandwidth_pos hb.size hb.rtt hb.rtt_le).trans_le (le_foldl_max _ _) }

theorem Bounded.endRound (rate : Int) (t : Time) : Bounded (b.endRound rate t) := by
  unfold BBRv1Sender.endRound
  extract_lets b₁ b₂ b₃ b₄ b₅
  have h₁ : Bounded b₁ := iteInduction (fun _ => hb.exitRecover) fun _ => hb
  have h₂ : Bounded b₂ := { h₁ with }
  have h₃ : Bounded b₃ :=
    iteInduction (fun _ => { h₂ with pacing := probeBWCycleGain_pos _ }) fun _ => h₂
  have h₄ : Bounded b₄ := Bounded.updateMaxbandwidthFilter { h₃ with }
  have h₅ : Bounded b₅ := iteInduction (fun _ => { h₄ with }) fun _ => h₄
  exact iteInduction (fun _ => { h₅ with pacing := by norm_num, window := le_rfl }) fun _ => h₅

theorem Bounded.updateStateOnAck (rate prior : Int) (t : Time) :
    Bounded (b.updateStateOnAck rate prior t) := by
  unfold BBRv1Sender.updateStateOnAck
  extract_lets b₁ appLimited b₂
  have h₁ : Bounded b₁ := iteInduction (fun _ => hb.entryProbeBW) fun _ => hb
  have hmin := minMaxbandwidth_pos h₁.size h₁.rtt h₁.rtt_le
  have h₂ : Bounded b₂ :=
    iteInduction (fun _ => { h₁ with bandwidth := hmin.trans_le (le_max_right rate _) }) fun _ => h₁
  refine iteInduction (fun _ => ?_) fun _ => h₂
  exact { h₂ with rtt := by norm_num [second], rtt_le := le_rfl, pacing := one_pos, window := le_rfl }

theorem Bounded.onPacketAcked (n : Nat) (bytes prior : Int) (t : Time) :
    Bounded (b.onPacketAcked n bytes prior t) := by
  have hrecord := hb.recordAck n bytes t
  refine iteInduction (fun _ => hrecord) fun _ => Bounded.updateStateOnAck ?_ _ _ t
  exact iteInduction (fun _ => (hrecord.filter t).endRound _ t) fun _ => hrecord.filter t

/-- **One call** keeps the bounds. -/
theorem Bounded.step (op : Op) : Bounded (b.step op) := by
  cases op with
  | onPacketSent => exact { hb with }
  | onPacketAcked n bytes prior t => exact hb.onPacketAcked n bytes prior t
  | onCongestionEvent => exact hb
  | onRetransmissionTimeout retransmitted now now' =>
    refine iteInduction (fun _ => ?_) fun _ => hb
    have hmin : 0 < (newBBRv1Sender b.maxDatagramSize now now').maxBandwidth :=
      minMaxbandwidth_pos hb.size (by norm_num [second]) le_rfl
    exact { hb with
      bandwidth := hmin
      pacing := by norm_num [newBBRv1Sender]
      window := by norm_num [newBBRv1Sender] }
  | setMaxDatagramSize size hpos => exact { hb with size := hpos }
  | hasPacingBudget now =>
    rw [BBRv1Sender.step, hasPacingBudget_eq]
    exact iteInduction (fun _ => hb.mayExitProbeRTT now) fun _ => (hb.mayExitProbeRTT now).filter now

end

/-! ## PROBE_RTT -/

/-- Outside PROBE_RTT, which began at `start`. -/
def Left (start : Time) (b : BBRv1Sender) : Prop :=
  b.state ≠ .probeRTT ∧ b.lastProbeRTTStart = start

theorem left_mayExitProbeRTT (h : b.lastProbeRTTStart + 200 * millisecond ≤ t) :
    Left b.lastProbeRTTStart (b.mayExitProbeRTT t) := by
  unfold mayExitProbeRTT
  split
  · exact ⟨by simp [entryProbeBW], rfl⟩
  · exact ⟨by grind, rfl⟩

theorem left_endRound {start : Time} (hl : Left start b) (rate : Int) (t : Time) :
    Left start (b.endRound rate t) := by
  unfold endRound
  extract_lets b₁ b₂ b₃ b₄ b₅
  have hrecover : Left start b.exitRecover := by
    unfold exitRecover
    dsimp only
    split <;> exact hl
  have h₁ : Left start b₁ := iteInduction (fun _ => hrecover) fun _ => hl
  have h₃ : Left start b₃ := iteInduction (fun _ => h₁) fun _ => h₁
  have h₅ : Left start b₅ := iteInduction (fun _ => h₃) fun _ => h₃
  exact iteInduction (fun _ => ⟨by simp, h₅.2⟩) fun _ => h₅

theorem left_updateStateOnAck {start : Time} (hl : Left start b) (ht : t < start + 10 * second)
    (rate prior : Int) : (b.updateStateOnAck rate prior t).state ≠ .probeRTT := by
  unfold updateStateOnAck
  extract_lets b₁ appLimited b₂
  have h₁ : Left start b₁ := iteInduction (fun _ => ⟨by simp [entryProbeBW], hl.2⟩) fun _ => hl
  have h₂ : Left start b₂ := iteInduction (fun _ => h₁) fun _ => h₁
  rw [if_neg]
  · exact h₂.1
  · rw [h₂.2]
    grind

theorem left_onPacketAcked (hstart : b.lastProbeRTTStart + 200 * millisecond ≤ t)
    (ht : t < b.lastProbeRTTStart + 10 * second) (n : Nat) (bytes prior : Int) :
    (b.onPacketAcked n bytes prior t).state ≠ .probeRTT := by
  have hrecord : Left b.lastProbeRTTStart (b.recordAck n bytes t) := by
    have hleft := left_mayExitProbeRTT
      (b := { b with sentTimes := Function.update b.sentTimes n none }) hstart
    unfold recordAck
    dsimp only
    split <;> exact hleft
  unfold onPacketAcked
  generalize b.recordAck n bytes t = b₁ at hrecord ⊢
  have hfilter : Left b.lastProbeRTTStart (b₁.updateLastbandwidthFilter t).2 := hrecord
  dsimp only
  rw [if_neg hrecord.1]
  refine left_updateStateOnAck ?_ ht _ prior
  exact iteInduction (fun _ => left_endRound hfilter _ t) fun _ => hfilter

/-! ## the window -/

theorem Bounded.cwnd (hb : Bounded b) : 4 * b.maxDatagramSize ≤ b.cwnd ∧
    (b.state ≠ .probeRTT → 32 * b.maxDatagramSize ≤ b.cwnd) := by
  have hsize := hb.size
  have hbdp : ((minBdp * b.maxDatagramSize : Int) : ℚ) ≤ b.bdp := le_max_right _ _
  have hpos : (0 : ℚ) ≤ (minBdp * b.maxDatagramSize : Int) := by
    exact_mod_cast (Int.mul_pos (by decide) hsize).le
  have hwindow : minBdp * b.maxDatagramSize ≤ truncateInt (b.bdp * b.cwndGain) := by
    refine le_truncateInt (by exact_mod_cast hpos) (hbdp.trans ?_)
    exact le_mul_of_one_le_right (hpos.trans hbdp) hb.window
  unfold BBRv1Sender.cwnd
  unfold minBdp at hwindow
  split
  · next hprobe => exact ⟨le_rfl, fun h => absurd hprobe h⟩
  · exact ⟨by omega, fun _ => hwindow⟩

end MoqQuic.BBRv1Sender
