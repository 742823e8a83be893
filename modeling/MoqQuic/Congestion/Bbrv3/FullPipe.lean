import MoqQuic.Congestion.Bbrv3.Meter
import MoqQuic.Lib.Machine

/-!
# MoqQuic.Congestion.Bbrv3.FullPipe

The end of Startup.

The sender takes its pipe for full when its bandwidth has not grown for three rounds.
`OnPacketAcked` runs the check at two points, and the round start that guards it is still set at the
second, so each ack counts twice (`fullPipe_processAck`). The ack that raises `fullBw` leaves the
count at one, since the second check compares the new bandwidth with itself (`check_check_first`,
`check_check_open`), and the next ack without growth takes it to three. The pipe is therefore never
declared full after three rounds, and a run is right exactly when it is never declared full at all.
-/

namespace MoqQuic

/-! ## the check of an estimate -/

namespace FullPipeEstimator

/-- `checkStartupFullBandwidth` at a round start, as a function of the estimate. -/
def check (config : Bbrv3Config) (maxBw : Nat) (p : FullPipeEstimator) : FullPipeEstimator :=
  if p.isFilledPipe then p
  else if maxBw ≥ truncate (p.fullBw * (1 + config.fullBwGrowthRate)) then
    { p with fullBw := maxBw, fullBwCount := 0 }
  else
    let count := p.fullBwCount + 1
    { p with
      fullBwCount := count
      isFilledPipe := if count ≥ config.fullBwCountThreshold then true else p.isFilledPipe }

variable {config : Bbrv3Config} {maxBw : Nat} {p : FullPipeEstimator}

theorem check_of_filled (h : p.isFilledPipe = true) : p.check config maxBw = p := by
  unfold check
  rw [if_pos h]

theorem Same.check {q : FullPipeEstimator} (h : p.Same q) :
    (p.check config maxBw).Same (q.check config maxBw) := by
  obtain rfl | ⟨hp, hq⟩ := h
  · exact .inl rfl
  · rw [check_of_filled hp, check_of_filled hq]
    exact .inr ⟨hp, hq⟩

theorem check_of_growth (h : p.isFilledPipe = false)
    (hbw : truncate (p.fullBw * (1 + config.fullBwGrowthRate)) ≤ maxBw) :
    p.check config maxBw = ⟨false, maxBw, 0⟩ := by
  unfold check
  rw [if_neg (Bool.eq_false_iff.mp h), if_pos hbw, ← h]

theorem check_of_plateau (h : p.isFilledPipe = false)
    (hbw : maxBw < truncate (p.fullBw * (1 + config.fullBwGrowthRate))) :
    p.check config maxBw =
      ⟨decide (p.fullBwCount + 1 ≥ config.fullBwCountThreshold), p.fullBw, p.fullBwCount + 1⟩ := by
  unfold check
  rw [if_neg (Bool.eq_false_iff.mp h), if_neg (Nat.not_le.mpr hbw)]
  dsimp only
  rw [h]
  congr 1

/-- The thresholds of Startup that every sender has. -/
structure Startup (config : Bbrv3Config) : Prop where
  threshold : config.fullBwCountThreshold = 3
  growthRate : config.fullBwGrowthRate = 1 / 4

theorem Startup.truncate_growth (h : Startup config) (fullBw : Nat) :
    truncate (fullBw * (1 + config.fullBwGrowthRate)) = 5 * fullBw / 4 := by
  rw [← truncate_natCast_div, h.growthRate]
  congr 1
  push_cast
  ring

/-- Two checks in a row that see growth: the second one sees none. -/
theorem check_check_of_growth (hc : Startup config) (h : p.isFilledPipe = false)
    (hbw : truncate (p.fullBw * (1 + config.fullBwGrowthRate)) ≤ maxBw) (hpos : 4 ≤ maxBw) :
    (p.check config maxBw).check config maxBw = ⟨false, maxBw, 1⟩ := by
  have hstill : maxBw < truncate (maxBw * (1 + config.fullBwGrowthRate)) := by
    rw [hc.truncate_growth]
    omega
  rw [check_of_growth h hbw, check_of_plateau rfl hstill, hc.threshold]
  rfl

/-- Two checks in a row that see no growth fill the pipe. -/
theorem check_check_of_plateau (hc : Startup config) (h : p.isFilledPipe = false)
    (hcount : p.fullBwCount = 1)
    (hbw : maxBw < truncate (p.fullBw * (1 + config.fullBwGrowthRate))) :
    ((p.check config maxBw).check config maxBw).isFilledPipe = true := by
  have hfirst : p.check config maxBw = ⟨false, p.fullBw, 2⟩ := by
    rw [check_of_plateau h hbw, hcount, hc.threshold]
    rfl
  have hsecond : check config maxBw ⟨false, p.fullBw, 2⟩ = ⟨true, p.fullBw, 3⟩ := by
    rw [check_of_plateau (p := ⟨false, p.fullBw, 2⟩) rfl hbw, hc.threshold]
    rfl
  rw [hfirst, hsecond]

end FullPipeEstimator

namespace BBRv3Sender

open FullPipeEstimator

/-! ## the checks of an ack -/

theorem fullPipe_checkStartupDone (b : BBRv3Sender) (h : b.round.isRoundStart = true) :
    b.checkStartupDone.fullPipe = b.fullPipe.check b.config b.maxBw := by
  have hcheck : b.checkStartupFullBandwidth.fullPipe = b.fullPipe.check b.config b.maxBw := by
    unfold checkStartupFullBandwidth FullPipeEstimator.check isFilledPipe
    by_cases hfilled : b.fullPipe.isFilledPipe = true
    · rw [if_pos (.inl hfilled), if_pos hfilled]
    · rw [if_neg (by simp [hfilled, h]), if_neg hfilled]
      split <;> rfl
  unfold checkStartupDone
  dsimp only
  split
  · exact hcheck
  · exact hcheck

/-- **Two checks**: the rest of an ack that starts a round checks its estimate twice. -/
theorem fullPipe_processAck (b : BBRv3Sender) (prior : Nat) (t clock : Time)
    (h : b.round.isRoundStart = true) :
    (b.processAck prior t clock).fullPipe.Same
      ((b.fullPipe.check b.config b.maxBw).check b.config b.maxBw) := by
  have hfirst : b.checkPipe.fullPipe = b.fullPipe.check b.config b.maxBw :=
    fullPipe_checkStartupDone
      b.updateLatestDeliverySignals.updateCongestionSignals.updateAckAggregation h
  have hupd := kept_updateOnAck b prior t clock
  have hmeas := measured_updateOnAck b prior t clock
  have hsecond : (b.updateOnAck prior t clock).checkStartupDone.fullPipe =
      (b.updateOnAck prior t clock).fullPipe.check b.config b.maxBw := by
    rw [fullPipe_checkStartupDone _ (hmeas.isRoundStart.trans h), hmeas.config, hmeas.maxBw]
  have hdrain := kept_leaveDrain (b.updateOnAck prior t clock).checkStartupDone prior clock
  have hfilter : ∀ a : BBRv3Sender, a.updateMaxBwFilter.fullPipe = a.fullPipe := by
    intro a
    unfold updateMaxBwFilter
    split <;> rfl
  have hend := (kept_checkMinRttAge ((b.updateOnAck prior t clock).checkStartupDone.leaveDrain prior
    clock).updateMaxBwFilter t).pipe
  rw [hfilter] at hend
  rw [← hfirst]
  refine (hend.trans hdrain.pipe).trans ?_
  rw [hsecond]
  exact hupd.pipe.check

/-! ## runs -/

/-- A sender and what an observer of its rounds has seen. -/
structure PipeWatch where
  sender : BBRv3Sender
  /-- the rounds since `fullBw` was last raised, the one that raised it included, at whose start
  `maxBw` was below the threshold of growth -/
  plateau : List Nat := []
  /-- the pipe was declared full after too few of these rounds -/
  early : Bool := false

namespace PipeWatch

/-- The plateau after a call that led to `sender`. -/
def observe (w : PipeWatch) (sender : BBRv3Sender) : Op → List Nat
  | .acked n bytes _ t _ =>
    if sender.round.roundCount > w.sender.round.roundCount then
      let plateau :=
        if sender.fullPipe.fullBw > w.sender.fullPipe.fullBw then [] else w.plateau
      if ((w.sender.ackSampled n bytes t).maxBw : ℚ) <
          sender.fullPipe.fullBw * (1 + sender.config.fullBwGrowthRate) then
        sender.round.roundCount :: plateau
      else plateau
    else w.plateau
  | .timeout true _ _ => []
  | _ => w.plateau

def step (w : PipeWatch) (op : Op) : PipeWatch :=
  let sender := w.sender.step op
  let plateau := w.observe sender op
  { sender
    plateau
    early := w.early || (!w.sender.isFilledPipe && sender.isFilledPipe &&
      decide (plateau.length < sender.config.fullBwCountThreshold)) }

/-- **End of Startup**: the pipe was declared full only after enough rounds without growth. -/
def Timely (w : PipeWatch) : Prop := w.early = false

/-- While the pipe is not full, an ack that is heard finds a bandwidth that has grown. -/
def HearsGrowth (w : PipeWatch) : Op → Prop
  | .acked n bytes _ t _ => ∀ sentTime, w.sender.Heard n bytes t sentTime →
      w.sender.isFilledPipe = false →
        truncate (w.sender.fullPipe.fullBw * (1 + w.sender.config.fullBwGrowthRate)) ≤
          (w.sender.ackSampled n bytes t).maxBw
  | _ => True

/-- What a sender with an open pipe has seen: no ack at all, or one that left the count at one. -/
structure Open (w : PipeWatch) : Prop where
  plateau : w.plateau.length ≤ 1
  cases : (w.sender.state = .startup ∧ w.sender.ackinfo = [] ∧ w.sender.fullPipe = {} ∧
      4 ≤ w.sender.maxBw) ∨
    (4 ≤ w.sender.fullPipe.fullBw ∧ w.sender.fullPipe.fullBwCount = 1)

structure Inv (w : PipeWatch) : Prop where
  started : w.sender.Started
  startup : Startup w.sender.config
  opened : w.sender.isFilledPipe = false → w.Open

theorem observe_length_le (w : PipeWatch) (sender : BBRv3Sender) (op : Op) :
    (w.observe sender op).length ≤ w.plateau.length + 1 := by
  cases op with
  | acked n bytes prior t clock =>
    have hraise : (if sender.fullPipe.fullBw > w.sender.fullPipe.fullBw then []
        else w.plateau).length ≤ w.plateau.length := by
      split
      · exact Nat.zero_le _
      · exact Nat.le_refl _
    unfold observe
    dsimp only
    split
    · split
      · exact Nat.succ_le_succ hraise
      · exact hraise.trans (Nat.le_succ _)
    · exact Nat.le_succ _
  | timeout retransmitted now initNow => cases retransmitted <;> simp [observe]
  | _ => exact Nat.le_succ _

variable {w : PipeWatch}

theorem plateau_of_round_le {n bytes prior t clock : Nat}
    (h : (w.sender.onPacketAcked n bytes prior t clock).round.roundCount ≤
      w.sender.round.roundCount) : (w.step (.acked n bytes prior t clock)).plateau = w.plateau := by
  unfold step observe
  dsimp only [BBRv3Sender.step]
  rw [if_neg (Nat.not_lt.mpr h)]

/-- An ack that raises `fullBw` at a round start begins a plateau. -/
theorem observe_length_of_raised (w : PipeWatch) (sender : BBRv3Sender)
    (n bytes prior t clock : Nat)
    (hround : sender.round.roundCount > w.sender.round.roundCount)
    (hraised : sender.fullPipe.fullBw > w.sender.fullPipe.fullBw) :
    (w.observe sender (.acked n bytes prior t clock)).length ≤ 1 := by
  unfold observe
  dsimp only
  rw [if_pos hround, if_pos hraised]
  split <;> simp

/-- A call that does not close an open estimate. -/
theorem timely_step_of_open {op : Op} (ht : w.Timely)
    (h : w.sender.fullPipe.isFilledPipe = false →
      (w.sender.step op).fullPipe.isFilledPipe = false) : (w.step op).Timely := by
  unfold Timely at ht ⊢
  unfold step isFilledPipe
  dsimp only
  rw [ht]
  cases hp : w.sender.fullPipe.isFilledPipe with
  | true => rfl
  | false =>
    rw [h hp]
    rfl

theorem step_of_kept (op : Op) (hw : w.Inv) (hk : Kept w.sender (w.sender.step op))
    (hst : w.sender.state = .startup → (w.sender.step op).state = .startup)
    (hplateau : w.observe (w.sender.step op) op = w.plateau) :
    (w.step op).Inv ∧ (w.Timely → (w.step op).Timely) := by
  refine ⟨⟨hk.started hw.started, ?_, fun hopen => ?_⟩, fun ht =>
    timely_step_of_open ht hk.pipe.isFilledPipe.trans⟩
  · rw [step, hk.config]
    exact hw.startup
  · have ho := hw.opened (hk.pipe.isFilledPipe.symm.trans hopen)
    obtain heq | ⟨hfull, -⟩ := hk.pipe
    · refine ⟨(congrArg List.length hplateau).trans_le ho.plateau, ?_⟩
      rw [step, heq, hk.ackinfo, hk.maxBw]
      exact ho.cases.imp_left fun hnew => ⟨hst hnew.1, hnew.2⟩
    · rw [step, isFilledPipe, hfull] at hopen
      contradiction

/-- The first ack gives no sample of the bandwidth. -/
theorem maxBw_first_ack {b : BBRv3Sender} (hst : b.state = .startup) (hinfo : b.ackinfo = [])
    (n bytes : Nat) (sentTime t : Time) :
    ((b.ackArrived n bytes sentTime t).sampleAck t).maxBw = b.maxBw := by
  have hexit : b.ackArrived n bytes sentTime t = b.recordAck n bytes sentTime t := by
    refine maybeExitProbeRTT_of_ne ?_ t
    rw [state_recordAck, hst]
    decide
  have hrecord : (b.recordAck n bytes sentTime t).ackinfo = [⟨bytes, t, b.delivered + bytes⟩] := by
    unfold recordAck
    dsimp only
    split <;> simp [hinfo]
  obtain ⟨-, hframe, hmaxBw, -⟩ := updateRound_frame (b.recordAck n bytes sentTime t)
  have hrate : (b.recordAck n bytes sentTime t).updateRound.calculateDeliveryRate t = 0 := by
    unfold calculateDeliveryRate
    rw [hframe, hrecord]
    simp
  rw [hexit]
  unfold sampleAck
  dsimp only
  rw [hrate, if_neg (by omega), hmaxBw]
  exact (recordAck_measures b n bytes sentTime t).2.2.1

/-- The estimate after an ack that is heard. -/
theorem fullPipe_heard {b : BBRv3Sender} (hs : b.Started) {n bytes : Nat} {t sentTime : Time}
    (hheard : b.Heard n bytes t sentTime) (prior : Nat) (clock : Time) :
    let m := (b.ackSampled n bytes t).maxBw
    ((b.ackSampled n bytes t).processAck prior t clock).fullPipe.Same
      ((b.fullPipe.check b.config m).check b.config m) := by
  have hsampled := sampled_of_heard hs hheard
  have h := fullPipe_processAck (b.ackSampled n bytes t) prior t clock (by rw [hsampled.round])
  rw [hsampled.config] at h
  exact h.trans hsampled.pipe.check.check

/-- What an ack that is heard does to an open pipe: `fullBw` is raised when the bandwidth has grown,
and the pipe is full when it has not. -/
theorem heard_cases (hw : w.Inv) {n bytes : Nat} {t sentTime : Time}
    (hheard : w.sender.Heard n bytes t sentTime) (prior : Nat) (clock : Time)
    (hopen : w.sender.fullPipe.isFilledPipe = false) :
    let m := (w.sender.ackSampled n bytes t).maxBw
    let b' := (w.sender.ackSampled n bytes t).processAck prior t clock
    (truncate (w.sender.fullPipe.fullBw * (1 + w.sender.config.fullBwGrowthRate)) ≤ m ∧
      b'.fullPipe = ⟨false, m, 1⟩ ∧ 4 ≤ m ∧ w.sender.fullPipe.fullBw < m) ∨
    (m < truncate (w.sender.fullPipe.fullBw * (1 + w.sender.config.fullBwGrowthRate)) ∧
      b'.fullPipe.isFilledPipe = true) := by
  have hpipe := fullPipe_heard hw.started hheard prior clock
  have hgrowth := hw.startup.truncate_growth w.sender.fullPipe.fullBw
  intro m b'
  have hgrown : truncate (w.sender.fullPipe.fullBw * (1 + w.sender.config.fullBwGrowthRate)) ≤ m →
      4 ≤ m → b'.fullPipe = ⟨false, m, 1⟩ := by
    intro hle hpos
    have hcheck := check_check_of_growth hw.startup hopen hle hpos
    obtain heq | ⟨-, hfull⟩ := hpipe
    · rw [← hcheck]
      exact heq
    · rw [hcheck] at hfull
      contradiction
  obtain ⟨hst, hinfo, hnew, hpos⟩ | ⟨hpos, hcount⟩ := (hw.opened hopen).cases
  · have hm : m = w.sender.maxBw := by
      change (w.sender.ackSampled n bytes t).maxBw = _
      rw [ackSampled_eq hheard.1, (leaveRecovery_frame _).2.2.2.2.1]
      exact maxBw_first_ack hst hinfo n bytes sentTime t
    rw [hnew] at hgrowth hgrown ⊢
    refine .inl ⟨?_, hgrown ?_ ?_, ?_, ?_⟩
    · exact hgrowth.trans_le (Nat.zero_le m)
    · exact hgrowth.trans_le (Nat.zero_le m)
    · omega
    · omega
    · change 0 < m
      omega
  · by_cases hle :
        truncate (w.sender.fullPipe.fullBw * (1 + w.sender.config.fullBwGrowthRate)) ≤ m
    · exact .inl ⟨hle, hgrown hle (by omega), by omega, by omega⟩
    · have hcheck := check_check_of_plateau hw.startup hopen hcount (Nat.not_le.mp hle)
      exact .inr ⟨Nat.not_le.mp hle, hpipe.isFilledPipe.trans hcheck⟩

/-! ## every call -/

/-- A new sender has an open pipe and has heard of nothing. -/
theorem open_new (mds : Nat) (now initNow : Time) {config : Bbrv3Config} {size : Nat}
    (hplateau : w.plateau = [])
    (h : w.sender = { newBBRv3Sender mds now initNow with config, maxDatagramSize := size }) :
    w.Open where
  plateau := by
    rw [hplateau]
    exact Nat.zero_le 1
  cases := by
    have hpos := maxDatagramSize_newConfig_pos mds
    have hmaxBw := maxBw_newBBRv3Sender mds now initNow
    rw [h]
    exact .inl ⟨rfl, rfl, rfl, by dsimp only; omega⟩

theorem acked_cases (hw : w.Inv) (n bytes prior t clock : Nat) :
    (w.step (.acked n bytes prior t clock)).Inv ∧ (w.Timely →
      ((w.step (.acked n bytes prior t clock)).Timely ↔
        w.HearsGrowth (.acked n bytes prior t clock))) := by
  have hround := roundCount_lt_iff w.sender hw.started n bytes prior t clock
  have hs := started_step w.sender (.acked n bytes prior t clock) hw.started
  have hsender : w.sender.step (.acked n bytes prior t clock) =
      w.sender.onPacketAcked n bytes prior t clock := rfl
  obtain ⟨hno, _, _, _, _, _, _, _, he, hle, hsame⟩ | ⟨sentTime, hheard, he⟩ :=
    onPacketAcked_of_started w.sender hw.started n bytes prior t clock
  · have hplateau := plateau_of_round_le (not_lt.mp fun hlt => (hround.mp hlt).elim hno)
    refine ⟨⟨hs, by rw [step, hsender, he]; exact hw.startup, fun hopen => ?_⟩, fun ht => ?_⟩
    · have ho := hw.opened (by rw [step, hsender, he] at hopen; exact hopen)
      refine ⟨hplateau ▸ ho.plateau, ?_⟩
      obtain hnew | hcount := ho.cases
      · rw [step, hsender, hsame (by rw [hnew.1]; decide)]
        exact .inl hnew
      · rw [step, hsender, he]
        exact .inr hcount
    · refine iff_of_true (timely_step_of_open ht ?_) fun sentTime hheard =>
        absurd hheard (hno sentTime)
      rw [hsender, he]
      exact id
  · have hstartup : Startup (w.sender.onPacketAcked n bytes prior t clock).config := by
      rw [he, (processAck_measures _ prior t clock).2.2.1,
        (sampled_of_heard hw.started hheard).config]
      exact hw.startup
    cases hopen : w.sender.fullPipe.isFilledPipe with
    | true =>
      have hpipe := (fullPipe_heard hw.started hheard prior clock).isFilledPipe
      rw [check_of_filled hopen, check_of_filled hopen, hopen, ← he] at hpipe
      refine ⟨⟨hs, hstartup, fun h => ?_⟩, fun ht =>
        iff_of_true (timely_step_of_open ht fun h => ?_) fun _ _ h => ?_⟩
      · rw [step, isFilledPipe, hsender, hpipe] at h
        contradiction
      · rw [hopen] at h
        contradiction
      · rw [isFilledPipe, hopen] at h
        contradiction
    | false =>
      obtain ⟨hgrown, hpipe, hpos, hraised⟩ | ⟨hplateau, hafter⟩ :=
        heard_cases hw hheard prior clock hopen
      · rw [← he] at hpipe
        refine ⟨⟨hs, hstartup, fun _ => ⟨?_, .inr ?_⟩⟩, fun ht =>
          iff_of_true (timely_step_of_open ht fun _ => ?_) fun _ _ _ => hgrown⟩
        · exact observe_length_of_raised w _ n bytes prior t clock
            (hround.mpr ⟨sentTime, hheard⟩) (hpipe ▸ hraised)
        · rw [step, hsender, hpipe]
          exact ⟨hpos, rfl⟩
        · rw [hsender, hpipe]
      · -- the pipe is declared full after at most two rounds
        have hlen := (observe_length_le w (w.sender.onPacketAcked n bytes prior t clock)
          (.acked n bytes prior t clock)).trans (Nat.succ_le_succ (hw.opened hopen).plateau)
        rw [← he] at hafter
        refine ⟨⟨hs, hstartup, fun h => ?_⟩, fun ht => iff_of_false (fun htimely => ?_)
          fun hgrowth => absurd (hgrowth sentTime hheard hopen) (Nat.not_le.mpr hplateau)⟩
        · rw [step, isFilledPipe, hsender, hafter] at h
          contradiction
        · unfold Timely step at htimely
          dsimp only [BBRv3Sender.step, isFilledPipe] at htimely
          rw [hopen, hafter, hstartup.threshold, decide_eq_true (by omega), ht] at htimely
          contradiction

/-- Every call keeps the invariant, and it is timely exactly when it finds growth. -/
theorem step_cases (op : Op) (hw : w.Inv) :
    (w.step op).Inv ∧ (w.Timely → ((w.step op).Timely ↔ w.HearsGrowth op)) := by
  cases op with
  | sent sentTime n bytes =>
    have h := step_of_kept (.sent sentTime n bytes) hw
      (kept_onPacketSent w.sender sentTime n bytes) (fun hst => ?_) rfl
    · exact h.imp_right fun h ht => iff_of_true (h ht) trivial
    · obtain ⟨next, he⟩ := w.sender.onPacketSent_eq sentTime n bytes
      rw [BBRv3Sender.step, he]
      exact hst
  | acked n bytes prior t clock => exact acked_cases hw n bytes prior t clock
  | lost lost clock =>
    have h := step_of_kept (.lost lost clock) hw
      (kept_onCongestionEvent w.sender lost clock) (fun hst => ?_) rfl
    · exact h.imp_right fun h ht => iff_of_true (h ht) trivial
    · exact (w.sender.state_onCongestionEvent lost clock).trans hst
  | pacing now =>
    have h := step_of_kept (.pacing now) hw (kept_maybeExitProbeRTT w.sender now)
      (fun hst => ?_) rfl
    · exact h.imp_right fun h ht => iff_of_true (h ht) trivial
    · change (w.sender.maybeExitProbeRTT now).state = .startup
      rw [maybeExitProbeRTT_of_ne (by rw [hst]; decide), hst]
  | timeout retransmitted now initNow =>
    have hs := started_step w.sender (.timeout retransmitted now initNow) hw.started
    cases retransmitted with
    | true =>
      refine ⟨⟨hs, hw.startup, fun _ => ?_⟩, fun ht =>
        iff_of_true (timely_step_of_open ht fun _ => rfl) trivial⟩
      exact open_new w.sender.maxDatagramSize now initNow rfl rfl
    | false =>
      exact ⟨⟨hs, hw.startup, fun hopen => ⟨(hw.opened hopen).plateau, (hw.opened hopen).cases⟩⟩,
        fun ht => iff_of_true (timely_step_of_open ht id) trivial⟩
  | setMaxDatagramSize size =>
    exact ⟨⟨hw.started, ⟨hw.startup.threshold, hw.startup.growthRate⟩, fun hopen =>
      ⟨(hw.opened hopen).plateau, (hw.opened hopen).cases⟩⟩,
      fun ht => iff_of_true (timely_step_of_open ht id) trivial⟩

/-- **End of Startup, exactly**: along a run of a new sender the pipe is declared full only after
three rounds without growth, if and only if each ack that is heard while the pipe is open finds a
bandwidth that has grown; the pipe is then never declared full. -/
theorem timely_iff_hearsGrowth (mds : Nat) (now initNow : Time) (ops : List Op) :
    (∀ w ∈ Machine.states step { sender := newBBRv3Sender mds now initNow } ops, w.Timely) ↔
      Machine.EachStep step HearsGrowth { sender := newBBRv3Sender mds now initNow } ops := by
  have hinit : Inv { sender := newBBRv3Sender mds now initNow } :=
    ⟨started_newBBRv3Sender mds now initNow, ⟨rfl, rfl⟩, fun _ => open_new mds now initNow rfl rfl⟩
  exact Machine.forall_states_iff (I := Inv) (P := Timely)
    (fun _ op hw _ => (step_cases op hw).1) (fun _ op hw ht => (step_cases op hw).2 ht) ops _ hinit
    rfl

/-- Two packets whose acks arrive a microsecond apart. -/
def quickAcks : List Op :=
  [.sent 0 1 1200, .sent 0 2 1200, .acked 1 1200 2400 50000000 0, .acked 2 1200 1200 50001000 0]

/-- The bandwidth that the two acks show is above that of the new sender. -/
theorem timely_quickAcks :
    ∀ w ∈ Machine.states step { sender := newBBRv3Sender 1200 0 0 } quickAcks, w.Timely := by
  refine (timely_iff_hearsGrowth 1200 0 0 quickAcks).mpr ⟨trivial, trivial, fun _ _ => ?_,
    fun _ _ => ?_, trivial⟩
  · decide +kernel
  · decide +kernel

/-- Two packets whose acks arrive ten milliseconds apart. -/
def slowAcks : List Op :=
  [.sent 0 1 1200, .sent 0 2 1200, .acked 1 1200 2400 50000000 0, .acked 2 1200 1200 60000000 0]

/-- **Counterexample**: the pipe is full after two rounds, of which the first one raised `fullBw`. -/
theorem slowAcks_early :
    let start : PipeWatch := { sender := newBBRv3Sender 1200 0 0 }
    (Machine.run step start (slowAcks.take 3)).sender.fullPipe = ⟨false, 332400, 1⟩ ∧
      (Machine.run step start slowAcks).sender.fullPipe.isFilledPipe = true ∧
      (Machine.run step start slowAcks).sender.round.roundCount = 2 ∧
      (Machine.run step start slowAcks).plateau = [2, 1] ∧
      (Machine.run step start slowAcks).sender.config.fullBwCountThreshold = 3 ∧
      ¬ (Machine.run step start slowAcks).Timely := by
  unfold Timely
  decide +kernel

end PipeWatch

end BBRv3Sender

end MoqQuic
