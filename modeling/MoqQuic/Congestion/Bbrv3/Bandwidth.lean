import MoqQuic.Congestion.Bbrv3.FullPipe

/-!
# MoqQuic.Congestion.Bbrv3.Bandwidth

The bandwidth estimate of the sender.

`maxBw` is meant to be the largest delivery rate of the last two filter windows. The sender
overwrites it with each sample that is not zero, since it takes a sample that is larger than `maxBw`
*or* that arrives while it knows a bandwidth at all, and it always knows one (`Estimating.bw`). The
filter never holds more than the sample of the ack that is being processed (`maxBw_processAck`).
-/

namespace MoqQuic.BBRv3Sender

/-- The delivery rate that an ack computes, if it computes one. -/
def ackRate (b : BBRv3Sender) (n bytes : Nat) (t : Time) : Option Nat :=
  match b.sentTimes n with
  | none => none
  | some sentTime =>
    let a := b.ackArrived n bytes sentTime t
    if a.state = .probeRTT then none else some (a.updateRound.calculateDeliveryRate t)

/-- What a sender knows of the bandwidth between two calls. -/
structure Estimating (b : BBRv3Sender) : Prop where
  started : b.Started
  core : b.core.Inv
  newest : b.maxBwFilter.bw1 = 0
  maxBw : 0 < b.maxBw
  bw : 0 < b.bw

/-! ## one ack -/

variable {b : BBRv3Sender}

/-- An ack computes a rate exactly when it is heard. -/
theorem ackRate_of_heard {n bytes : Nat} {t sentTime : Time} (h : b.Heard n bytes t sentTime) :
    b.ackRate n bytes t =
      some ((b.ackArrived n bytes sentTime t).updateRound.calculateDeliveryRate t) := by
  unfold ackRate
  rw [h.1]
  dsimp only
  rw [if_neg h.2]

theorem ackRate_of_unheard {n bytes : Nat} {t : Time}
    (h : ∀ sentTime, ¬ b.Heard n bytes t sentTime) : b.ackRate n bytes t = none := by
  unfold ackRate
  cases hn : b.sentTimes n with
  | none => rfl
  | some sentTime =>
    dsimp only
    rw [if_pos]
    by_contra hst
    exact h sentTime ⟨hn, hst⟩

/-- The sample of an ack replaces the estimate, unless it is zero. -/
theorem maxBw_ackSampled (hb : b.Estimating) {n bytes rate : Nat} {t sentTime : Time}
    (hheard : b.Heard n bytes t sentTime) (h : b.ackRate n bytes t = some rate) :
    (b.ackSampled n bytes t).maxBw = (if 0 < rate then rate else b.maxBw) ∧
      ((b.ackSampled n bytes t).maxBwFilter.bw1 = 0 ∨
        (b.ackSampled n bytes t).maxBwFilter.bw1 = (b.ackSampled n bytes t).maxBw) := by
  rw [ackRate_of_heard hheard, Option.some.injEq] at h
  have ha := arrived_ackArrived b n bytes sentTime t
  have hbw : (b.ackArrived n bytes sentTime t).bw = b.bw :=
    (sampled_ackArrived b n bytes sentTime t).1.bw
  have hnewest : (b.ackArrived n bytes sentTime t).maxBwFilter.bw1 = 0 := by
    obtain heq | heq := ha.newest
    · rw [heq]
      exact hb.newest
    · exact heq
  obtain ⟨-, -, hmaxBw', hbw', hfilter', -⟩ := updateRound_frame (b.ackArrived n bytes sentTime t)
  obtain ⟨-, -, -, -, hleave, hleave'⟩ :=
    leaveRecovery_frame ((b.ackArrived n bytes sentTime t).sampleAck t)
  rw [ackSampled_eq hheard.1, hleave, hleave']
  unfold sampleAck
  dsimp only
  rw [h, hmaxBw', hbw', ha.maxBw, hbw]
  by_cases hpos : 0 < rate
  · rw [if_pos hpos, if_pos (.inr ⟨hb.bw, hpos⟩)]
    exact ⟨rfl, .inr rfl⟩
  · rw [if_neg hpos, if_neg (by omega), hmaxBw', hfilter', ha.maxBw]
    exact ⟨rfl, .inl hnewest⟩

/-- The rest of the ack keeps the estimate and empties the newest entry of the filter. -/
theorem maxBw_processAck (h : b.maxBwFilter.bw1 = 0 ∨ b.maxBwFilter.bw1 = b.maxBw) (prior : Nat)
    (t clock : Time) :
    (b.processAck prior t clock).maxBw = b.maxBw ∧
      (b.processAck prior t clock).maxBwFilter.bw1 = 0 := by
  have hmeas := ((measured_updateOnAck b prior t clock).trans (measured_checkStartupDone _)).trans
    (kept_leaveDrain _ prior clock).toMeasured
  unfold processAck
  dsimp only
  generalize ((b.updateOnAck prior t clock).checkStartupDone).leaveDrain prior clock = a
    at hmeas ⊢
  have hage : (a.updateMaxBwFilter.checkMinRttAge t).maxBw = a.updateMaxBwFilter.maxBw ∧
      (a.updateMaxBwFilter.checkMinRttAge t).maxBwFilter = a.updateMaxBwFilter.maxBwFilter := by
    unfold checkMinRttAge
    split <;> exact ⟨rfl, rfl⟩
  rw [hage.1, hage.2]
  unfold updateMaxBwFilter
  by_cases hzero : a.maxBwFilter.bw1 = 0
  · rw [if_pos hzero]
    exact ⟨hmeas.maxBw, hzero⟩
  · rw [if_neg hzero]
    refine ⟨?_, rfl⟩
    have hnewest : a.maxBwFilter.bw1 = b.maxBw := by
      obtain heq | heq := hmeas.newest
      · rw [heq] at hzero ⊢
        exact h.resolve_left hzero
      · exact absurd heq hzero
    unfold SimpleMaxFilter.maxBw
    dsimp only
    rw [if_pos (Nat.pos_of_ne_zero hzero), hnewest]

theorem maxBw_onPacketAcked (hb : b.Estimating) (n bytes prior : Nat) (t clock : Time) :
    (b.onPacketAcked n bytes prior t clock).maxBw =
      (b.ackRate n bytes t).elim b.maxBw fun rate => if 0 < rate then rate else b.maxBw := by
  obtain ⟨hno, _, _, _, _, _, _, _, he, -⟩ | ⟨sentTime, hheard, he⟩ :=
    onPacketAcked_of_started b hb.started n bytes prior t clock
  · rw [he, ackRate_of_unheard hno]
    rfl
  · have hrate := ackRate_of_heard hheard
    obtain ⟨hmaxBw, hfilter⟩ := maxBw_ackSampled hb hheard hrate
    rw [he, hrate, (maxBw_processAck hfilter prior t clock).1]
    exact hmaxBw

/-! ## every call -/

theorem estimating_newBBRv3Sender (mds : Nat) (now initNow : Time) :
    (newBBRv3Sender mds now initNow).Estimating := by
  have hmaxBw := maxBw_newBBRv3Sender mds now initNow
  have hpos := maxDatagramSize_newConfig_pos mds
  have hbw : (newBBRv3Sender mds now initNow).bw = (newBBRv3Sender mds now initNow).maxBw := rfl
  exact ⟨started_newBBRv3Sender mds now initNow, inv_newBBRv3Sender mds now initNow, rfl,
    by omega, by omega⟩

theorem estimating_onPacketAcked (hb : b.Estimating) (n bytes prior t clock : Nat) :
    (b.onPacketAcked n bytes prior t clock).Estimating := by
  have hs := started_step b (.acked n bytes prior t clock) hb.started
  have hi := inv_onPacketAcked b n bytes prior t clock hb.core
  obtain ⟨-, _, _, _, _, _, _, _, he, -⟩ | ⟨sentTime, hheard, he⟩ :=
    onPacketAcked_of_started b hb.started n bytes prior t clock
  · refine ⟨hs, hi, ?_, ?_, ?_⟩ <;> rw [he]
    · exact hb.newest
    · exact hb.maxBw
    · exact hb.bw
  · obtain ⟨hmaxBw, hfilter⟩ := maxBw_ackSampled hb hheard (ackRate_of_heard hheard)
    obtain ⟨hmaxBw', hnewest⟩ := maxBw_processAck hfilter prior t clock
    have hpos : 0 < (b.ackSampled n bytes t).maxBw := by
      rw [hmaxBw]
      split
      · assumption
      · exact hb.maxBw
    refine ⟨hs, hi, ?_, ?_, ?_⟩
    · rw [he]
      exact hnewest
    · rw [he, hmaxBw']
      exact hpos
    · -- the model update bounds the bandwidth by bounds that are not in force
      obtain ⟨maxBw, hcore⟩ := core_processAck _ prior t clock (inv_ackSampled b n bytes t hb.core)
        (hheard.state hb.started)
      have hbw := congrArg Core.bw hcore
      rw [← he] at hbw
      have hupdate : (({ (b.ackSampled n bytes t).core.update prior t with maxBw := maxBw } :
          Core).age t).bw = min (b.ackSampled n bytes t).maxBw maxUint64 := by
        unfold Core.age Core.update
        split <;> split <;> rfl
      change 0 < (b.onPacketAcked n bytes prior t clock).core.bw
      rw [hbw, hupdate]
      have huint : 0 < maxUint64 := by decide
      omega

theorem Estimating.of_kept {b b' : BBRv3Sender} (hb : b.Estimating) (hs : b'.Started)
    (hi : b'.core.Inv) (h : Kept b b') (hbw : b'.bw = b.bw) : b'.Estimating where
  started := hs
  core := hi
  newest := by
    obtain heq | heq := h.newest
    · rw [heq]
      exact hb.newest
    · exact heq
  maxBw := by
    rw [h.maxBw]
    exact hb.maxBw
  bw := by
    rw [hbw]
    exact hb.bw

theorem estimating_step (op : Op) (hb : b.Estimating) : (b.step op).Estimating := by
  have hs := started_step b op hb.started
  have hi := inv_step b op hb.core
  cases op with
  | sent sentTime n bytes =>
    have hbw := congrArg Core.bw (core_onPacketSent b sentTime n bytes)
    exact hb.of_kept hs hi (kept_onPacketSent b sentTime n bytes) hbw
  | acked n bytes prior t clock => exact estimating_onPacketAcked hb n bytes prior t clock
  | lost lost clock =>
    obtain ⟨_, _, _, hcore⟩ := core_onCongestionEvent b lost clock
    exact hb.of_kept hs hi (kept_onCongestionEvent b lost clock) (congrArg Core.bw hcore)
  | pacing now =>
    have hbw := congrArg Core.bw (core_maybeExitProbeRTT b now)
    exact hb.of_kept hs hi (kept_maybeExitProbeRTT b now) hbw
  | timeout retransmitted now initNow =>
    cases retransmitted with
    | true =>
      have hnew := estimating_newBBRv3Sender b.maxDatagramSize now initNow
      exact ⟨hs, hi, hnew.newest, hnew.maxBw, hnew.bw⟩
    | false => exact hb
  | setMaxDatagramSize size => exact ⟨hs, hi, hb.newest, hb.maxBw, hb.bw⟩

/-! ## runs -/

/-- A sender and the samples of its filter windows. -/
structure BandwidthWatch where
  sender : BBRv3Sender
  /-- the samples since the last advance of the filter -/
  window : List Nat := []
  /-- the samples between the advance before that and the last one -/
  previous : List Nat := []
  /-- an ack has lowered `maxBw` without an advance -/
  lowered : Bool := false

namespace BandwidthWatch

/-- The samples since the last advance, with the one of an ack. -/
def sampled (w : BandwidthWatch) (n bytes : Nat) (t : Time) : List Nat :=
  (w.sender.ackRate n bytes t).toList ++ w.window

def step (w : BandwidthWatch) (op : Op) : BandwidthWatch :=
  let sender := w.sender.step op
  match op with
  | .acked n bytes _ t _ =>
    if sender.cycleCount = w.sender.cycleCount then
      { w with
        sender
        window := w.sampled n bytes t
        lowered := w.lowered || decide (sender.maxBw < w.sender.maxBw) }
    else { w with sender, window := [], previous := w.sampled n bytes t }
  | .timeout true _ _ => { w with sender, window := [], previous := [] }
  | _ => { w with sender }

/-- **Windowed maximum**: `maxBw` was not lowered within a window, and it is at least every sample
since the advance before the last one. -/
def Maximal (w : BandwidthWatch) : Prop :=
  w.lowered = false ∧ ∀ rate ∈ w.window ++ w.previous, rate ≤ w.sender.maxBw

/-- An ack whose sample is not zero does not show less than the estimate, or, when it advances the
filter, less than a sample of the window that it ends. -/
def HearsMaximum (w : BandwidthWatch) : Op → Prop
  | .acked n bytes prior t clock => ∀ rate, w.sender.ackRate n bytes t = some rate → 0 < rate →
      if (w.sender.onPacketAcked n bytes prior t clock).cycleCount = w.sender.cycleCount then
        w.sender.maxBw ≤ rate
      else ∀ sample ∈ w.window, sample ≤ rate
  | _ => True

theorem step_sender (w : BandwidthWatch) (op : Op) : (w.step op).sender = w.sender.step op := by
  cases op with
  | acked n bytes prior t clock =>
    unfold step
    dsimp only
    split <;> rfl
  | timeout retransmitted now initNow => cases retransmitted <;> rfl
  | _ => rfl

theorem maximal_acked_iff {w : BandwidthWatch} (hb : w.sender.Estimating) (hw : w.Maximal)
    (n bytes prior t clock : Nat) :
    (w.step (.acked n bytes prior t clock)).Maximal ↔
      w.HearsMaximum (.acked n bytes prior t clock) := by
  have hmaxBw := maxBw_onPacketAcked hb n bytes prior t clock
  obtain ⟨hlowered, hmax⟩ := hw
  have hwindow : ∀ rate ∈ w.window, rate ≤ w.sender.maxBw := fun rate hmem =>
    hmax rate (List.mem_append_left _ hmem)
  unfold step HearsMaximum Maximal sampled
  dsimp only [BBRv3Sender.step]
  cases hrate : w.sender.ackRate n bytes t with
  | none =>
    rw [hrate] at hmaxBw
    simp only [Option.elim] at hmaxBw
    refine ⟨fun _ _ h => (by contradiction), fun _ => ?_⟩
    split
    · dsimp only
      rw [hmaxBw, hlowered, decide_eq_false (Nat.lt_irrefl _)]
      exact ⟨rfl, hmax⟩
    · dsimp only
      rw [hmaxBw]
      exact ⟨hlowered, hwindow⟩
  | some rate =>
    rw [hrate] at hmaxBw
    simp only [Option.elim] at hmaxBw
    simp only [Option.some.injEq, forall_eq', Option.toList_some, List.singleton_append]
    by_cases hpos : 0 < rate
    · rw [if_pos hpos] at hmaxBw
      by_cases hcycle : (w.sender.onPacketAcked n bytes prior t clock).cycleCount =
          w.sender.cycleCount
      · rw [if_pos hcycle, if_pos hcycle]
        dsimp only
        rw [hmaxBw, hlowered, Bool.false_or, decide_eq_false_iff_not, Nat.not_lt]
        refine ⟨fun h _ => h.1, fun h => ⟨h hpos, fun sample hmem => ?_⟩⟩
        obtain rfl | hmem := List.mem_cons.mp hmem
        · exact Nat.le_refl _
        · exact (hmax sample hmem).trans (h hpos)
      · rw [if_neg hcycle, if_neg hcycle]
        dsimp only
        rw [hmaxBw, hlowered]
        simp [hpos]
    · rw [if_neg hpos] at hmaxBw
      have hzero : rate = 0 := Nat.eq_zero_of_not_pos hpos
      refine ⟨fun _ h => absurd h hpos, fun _ => ?_⟩
      split
      · dsimp only
        rw [hmaxBw, hlowered, decide_eq_false (Nat.lt_irrefl _), hzero]
        refine ⟨rfl, fun sample hmem => ?_⟩
        obtain rfl | hmem := List.mem_cons.mp hmem
        · exact Nat.zero_le _
        · exact hmax sample hmem
      · dsimp only
        rw [hmaxBw, hzero]
        refine ⟨hlowered, fun sample hmem => ?_⟩
        obtain rfl | hmem := List.mem_cons.mp hmem
        · exact Nat.zero_le _
        · exact hwindow sample hmem

theorem maximal_step_iff {w : BandwidthWatch} (op : Op) (hb : w.sender.Estimating)
    (hw : w.Maximal) : (w.step op).Maximal ↔ w.HearsMaximum op := by
  have hkept : ∀ sender, sender.maxBw = w.sender.maxBw →
      ({ w with sender } : BandwidthWatch).Maximal := by
    intro sender hsender
    refine ⟨hw.1, fun rate hmem => ?_⟩
    rw [hsender]
    exact hw.2 rate hmem
  cases op with
  | acked n bytes prior t clock => exact maximal_acked_iff hb hw n bytes prior t clock
  | sent sentTime n bytes =>
    exact ⟨fun _ => trivial, fun _ => hkept _ (kept_onPacketSent w.sender sentTime n bytes).maxBw⟩
  | lost lost clock =>
    exact ⟨fun _ => trivial, fun _ => hkept _ (kept_onCongestionEvent w.sender lost clock).maxBw⟩
  | pacing now =>
    exact ⟨fun _ => trivial, fun _ => hkept _ (kept_maybeExitProbeRTT w.sender now).maxBw⟩
  | timeout retransmitted now initNow =>
    refine ⟨fun _ => trivial, fun _ => ?_⟩
    cases retransmitted with
    | true => exact ⟨hw.1, fun _ hmem => absurd hmem List.not_mem_nil⟩
    | false => exact hkept _ rfl
  | setMaxDatagramSize size => exact ⟨fun _ => trivial, fun _ => hkept _ rfl⟩

/-- Two acks, of which the second one shows a large rate. -/
def burst : List Op :=
  [.sent 0 1 1200, .sent 0 2 1200, .sent 0 3 1200, .acked 1 1200 3600 50000000 0,
    .acked 2 1200 2400 50001000 0]

end BandwidthWatch

end MoqQuic.BBRv3Sender
