import MoqQuic.Congestion.Bbrv1.Delivered
import MoqQuic.Congestion.Bbrv3.Step
import MoqQuic.Quic.SentPacketHandler

/-!
# MoqQuic.Congestion.SentTimes

The send times that the two BBR senders keep, as a function of the calls that the packet
handler makes.

Both senders keep one map from packet numbers to send times: `OnPacketSent` enters a number,
`OnPacketAcked` takes it out, and `OnRetransmissionTimeout(true)` starts a new map. No other
call touches it. `Runs` drives a sender by a list of calls, with arbitrary readings of the
clock and arbitrary calls of the pacing functions in between; `Runs.sentTimes_eq` says that
the map is the one of `sentTimesAfter`.
-/

namespace MoqQuic

open Quic

/-! ## BBRv1 -/

namespace BBRv1Sender

variable (b : BBRv1Sender)

theorem sentTimes_filtered (t : Time) : (b.filtered t).sentTimes = b.sentTimes := by
  unfold filtered
  split <;> rfl

theorem sentTimes_onPacketAcked (n : Nat) (bytes prior : Int) (t : Time) :
    (b.onPacketAcked n bytes prior t).sentTimes = Function.update b.sentTimes n none := by
  have hacked := congrArg Prod.fst (b.book_onPacketAcked n bytes prior t)
  have hrecord := congrArg Prod.fst (b.book_recordAck n bytes t)
  exact hacked.trans ((sentTimes_filtered _ t).trans hrecord)

theorem sentTimes_hasPacingBudget (now : Time) :
    (b.hasPacingBudget now).2.sentTimes = b.sentTimes := by
  rw [hasPacingBudget_eq, sentTimes_filtered]
  exact congrArg Prod.fst (b.sameBook_mayExitProbeRTT now)

end BBRv1Sender

/-! ## BBRv3 -/

namespace BBRv3Sender

variable (b : BBRv3Sender)

theorem sentTimes_ackArrived (n bytes : Nat) (sentTime t : Time) :
    (b.ackArrived n bytes sentTime t).sentTimes = Function.update b.sentTimes n none := by
  obtain ⟨rtt, stamp, -, hcore⟩ := core_ackArrived b n bytes sentTime t
  exact congrArg Core.sentTimes hcore

theorem sentTimes_sampleAck (t : Time) : (b.sampleAck t).sentTimes = b.sentTimes :=
  congrArg Core.sentTimes (core_sampleAck b t)

theorem sentTimes_leaveRecovery : b.leaveRecovery.sentTimes = b.sentTimes := by
  have hcore := congrArg Core.sentTimes (core_leaveRecovery b)
  split at hcore <;> exact hcore

theorem sentTimes_processAck (prior : Nat) (t clock : Time) (hi : b.core.Inv)
    (hne : b.state ≠ .probeRTT) : (b.processAck prior t clock).sentTimes = b.sentTimes := by
  obtain ⟨maxBw, hcore⟩ := core_processAck b prior t clock hi hne
  refine (congrArg Core.sentTimes hcore).trans ?_
  unfold Core.age Core.update
  split <;> split <;> rfl

theorem sentTimes_onPacketAcked (n bytes prior : Nat) (t clock : Time) (hi : b.core.Inv) :
    (b.onPacketAcked n bytes prior t clock).sentTimes = Function.update b.sentTimes n none := by
  cases hsent : b.sentTimes n with
  | none =>
    rw [← hsent, Function.update_eq_self, onPacketAcked, hsent]
  | some sentTime =>
    have harrived := sentTimes_ackArrived b n bytes sentTime t
    have hsampled : b.ackSampled n bytes t =
        ((b.ackArrived n bytes sentTime t).sampleAck t).leaveRecovery := by
      rw [ackSampled, hsent]
    rw [onPacketAcked, hsent, ← harrived]
    dsimp only
    split
    · rfl
    · next hstate =>
      split
      · next hpassed =>
        have hup : b.ackUpdates n bytes t = true := by
          simp [ackUpdates, hsent, hstate, hpassed]
        rw [← hsampled, sentTimes_processAck _ prior t clock
          (inv_ackSampled b n bytes t hi) (state_ackSampled b n bytes t hup), hsampled,
          sentTimes_leaveRecovery, sentTimes_sampleAck]
      · exact sentTimes_sampleAck _ t

theorem sentTimes_onCongestionEvent (lost : Nat) (clock : Time) :
    (b.onCongestionEvent lost clock).sentTimes = b.sentTimes := by
  obtain ⟨_, _, _, hcore⟩ := core_onCongestionEvent b lost clock
  exact congrArg Core.sentTimes hcore

end BBRv3Sender

/-! ## the senders -/

/-- A congestion controller that samples the RTT from the send times of packets. -/
inductive BbrSender where
  | bbrv1 (b : BBRv1Sender)
  | bbrv3 (b : BBRv3Sender)

namespace BbrSender

variable {φ : Type}

def sentTimes : BbrSender → Nat → Option Time
  | bbrv1 b => b.sentTimes
  | bbrv3 b => b.sentTimes

/-- The RTT that `OnPacketAcked` works with; BBRv3 takes no sample for a packet that is not
found, and BBRv1 does. -/
def rttSample (s : BbrSender) (number : Nat) (eventTime : Time) : Option Duration :=
  match s with
  | bbrv1 b => some (b.rtt number eventTime)
  | bbrv3 b => (b.sentTimes number).map fun sentTime => eventTime - sentTime

/-- A call of the packet handler; `clock` and `clock'` are readings of the clock. -/
def onCall (s : BbrSender) (clock clock' : Time) : Call φ → BbrSender
  | .onPacketSent t _ pn bytes _ =>
    match s with
    | bbrv1 b => bbrv1 (b.onPacketSent t pn.toNat bytes)
    | bbrv3 b => bbrv3 (b.onPacketSent t pn.toNat bytes)
  | .onPacketAcked p prior t =>
    match s with
    | bbrv1 b => bbrv1 (b.onPacketAcked p.1.toNat p.2.length prior t)
    | bbrv3 b => bbrv3 (b.onPacketAcked p.1.toNat p.2.length prior.toNat t clock)
  | .onCongestionEvent _ lost _ =>
    match s with
    | bbrv1 b => bbrv1 b.onCongestionEvent
    | bbrv3 b => bbrv3 (b.onCongestionEvent lost clock)
  | .onRetransmissionTimeout =>
    match s with
    | bbrv1 b => bbrv1 (b.onRetransmissionTimeout true clock clock')
    | bbrv3 b => bbrv3 (b.onRetransmissionTimeout true clock clock')
  | .maybeExitSlowStart | .onAcked _ | .onLost _ | .ignorePacketsBelow _ => s

def hasPacingBudget (s : BbrSender) (now : Time) : BbrSender :=
  match s with
  | bbrv1 b => bbrv1 (b.hasPacingBudget now).2
  | bbrv3 b => bbrv3 (b.hasPacingBudget now).2

def setMaxDatagramSize (s : BbrSender) (size : Nat) : BbrSender :=
  match s with
  | bbrv1 b => bbrv1 (b.setMaxDatagramSize size)
  | bbrv3 b => bbrv3 (b.setMaxDatagramSize size)

/-- A sender as it is created. -/
inductive Fresh : BbrSender → Prop
  | bbrv1 (size : Int) (now now' : Time) :
      Fresh (.bbrv1 (BBRv1Sender.newBBRv1Sender size now now'))
  | bbrv3 (size : Nat) (now now' : Time) :
      Fresh (.bbrv3 (BBRv3Sender.newBBRv3Sender size now now'))

/-- What a sender that is driven by the calls may have become. -/
inductive Runs : List (Call φ) → BbrSender → Prop
  | fresh {s : BbrSender} : Fresh s → Runs [] s
  | call {calls : List (Call φ)} {s : BbrSender} (c : Call φ) (clock clock' : Time) :
      Runs calls s → Runs (calls ++ [c]) (s.onCall clock clock' c)
  | pacing {calls : List (Call φ)} {s : BbrSender} (now : Time) :
      Runs calls s → Runs calls (s.hasPacingBudget now)
  | size {calls : List (Call φ)} {s : BbrSender} (size : Nat) :
      Runs calls s → Runs calls (s.setMaxDatagramSize size)

/-- What a call does to the send times. -/
def record (sentTimes : Nat → Option Time) : Call φ → Nat → Option Time
  | .onPacketSent t _ pn _ _ => Function.update sentTimes pn.toNat (some t)
  | .onPacketAcked p _ _ => Function.update sentTimes p.1.toNat none
  | .onRetransmissionTimeout => fun _ => none
  | .onCongestionEvent .. | .maybeExitSlowStart | .onAcked _ | .onLost _
  | .ignorePacketsBelow _ => sentTimes

/-- The send times after the calls. -/
def sentTimesAfter (calls : List (Call φ)) : Nat → Option Time :=
  calls.foldl record fun _ => none

/-- The invariant of the BBRv3 sender. -/
def Inv : BbrSender → Prop
  | bbrv1 _ => True
  | bbrv3 b => b.core.Inv

theorem Inv.onCall {s : BbrSender} (hi : s.Inv) (clock clock' : Time) (c : Call φ) :
    (s.onCall clock clock' c).Inv ∧ (s.onCall clock clock' c).sentTimes = record s.sentTimes c := by
  cases s with
  | bbrv1 b =>
    cases c with
    | onPacketAcked p prior t => exact ⟨trivial, b.sentTimes_onPacketAcked _ _ prior t⟩
    | _ => exact ⟨trivial, rfl⟩
  | bbrv3 b =>
    cases c with
    | onPacketSent t inFlight pn bytes retransmittable =>
      exact ⟨b.inv_onPacketSent t _ bytes hi,
        congrArg BBRv3Sender.Core.sentTimes (b.core_onPacketSent t _ bytes)⟩
    | onPacketAcked p prior t =>
      exact ⟨b.inv_onPacketAcked _ _ _ t clock hi, b.sentTimes_onPacketAcked _ _ _ t clock hi⟩
    | onCongestionEvent pn lost prior =>
      exact ⟨b.inv_onCongestionEvent lost clock hi, b.sentTimes_onCongestionEvent lost clock⟩
    | onRetransmissionTimeout =>
      exact ⟨b.inv_onRetransmissionTimeout true clock clock' hi, rfl⟩
    | maybeExitSlowStart | onAcked | onLost | ignorePacketsBelow => exact ⟨hi, rfl⟩

/-- **The send times of a sender** are those of the calls. -/
theorem Runs.sentTimes_eq {calls : List (Call φ)} {s : BbrSender} (hr : Runs calls s) :
    s.Inv ∧ s.sentTimes = sentTimesAfter calls := by
  induction hr with
  | fresh hfresh =>
    cases hfresh with
    | bbrv1 size now now' => exact ⟨trivial, rfl⟩
    | bbrv3 size now now' => exact ⟨BBRv3Sender.inv_newBBRv3Sender size now now', rfl⟩
  | call c clock clock' _ ih =>
    obtain ⟨hi, hsent⟩ := ih.1.onCall clock clock' c
    refine ⟨hi, ?_⟩
    rw [hsent, ih.2, sentTimesAfter, sentTimesAfter, List.foldl_append]
    rfl
  | @pacing calls s now _ ih =>
    cases s with
    | bbrv1 b => exact ⟨trivial, (b.sentTimes_hasPacingBudget now).trans ih.2⟩
    | bbrv3 b =>
      refine ⟨b.inv_maybeExitProbeRTT now ih.1, Eq.trans ?_ ih.2⟩
      exact congrArg BBRv3Sender.Core.sentTimes (b.core_maybeExitProbeRTT now)
  | @size calls s size _ ih =>
    cases s with
    | bbrv1 b => exact ⟨trivial, ih.2⟩
    | bbrv3 b => exact ⟨b.inv_setMaxDatagramSize size ih.1, ih.2⟩

end BbrSender

end MoqQuic
