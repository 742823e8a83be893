import MoqQuic.Congestion.Bbrv3.Meter
import MoqQuic.Lib.Machine

/-!
# MoqQuic.Congestion.Bbrv3.Rounds

Round trips of the sender.

A round trip ends when a packet is acknowledged that was sent after the round started. The sender
compares the delivered bytes of the ack that it has just recorded with those at the start of the
round, instead of the delivered bytes at the time when the packet was sent. Every ack that it hears
starts a round, so the rounds are counted exactly when each ack is of a packet that was sent after
the ack before it.
-/

namespace MoqQuic.BBRv3Sender

/-- A sender and what an observer of the rounds has seen. -/
structure RoundWatch where
  sender : BBRv3Sender
  /-- the packets that were sent since the last round start -/
  fresh : List Nat := []
  /-- the packets whose ack started a round, although they had been sent before the round start
  before it -/
  stale : List Nat := []

namespace RoundWatch

def step (w : RoundWatch) (op : Op) : RoundWatch :=
  let sender := w.sender.step op
  match op with
  | .sent _ n _ => { w with sender, fresh := n :: w.fresh }
  | .acked n _ _ _ _ =>
    if sender.round.roundCount > w.sender.round.roundCount then
      { sender, fresh := [], stale := if n ∈ w.fresh then w.stale else n :: w.stale }
    else { w with sender }
  | _ => { w with sender }

/-- **Round counting**: each ack that started a round is of a packet that was sent after the round
start before it. -/
def Counted (w : RoundWatch) : Prop := w.stale = []

/-- An ack that is heard is of a packet that was sent after the last round start. -/
def HearsFresh (w : RoundWatch) : Op → Prop
  | .acked n bytes _ t _ => ∀ sentTime, w.sender.Heard n bytes t sentTime → n ∈ w.fresh
  | _ => True

theorem step_sender (w : RoundWatch) (op : Op) : (w.step op).sender = w.sender.step op := by
  cases op with
  | acked n bytes prior t clock =>
    unfold step
    dsimp only
    split <;> rfl
  | _ => rfl

theorem counted_step_iff {w : RoundWatch} (op : Op) (hs : w.sender.Started) (hw : w.Counted) :
    (w.step op).Counted ↔ w.HearsFresh op := by
  cases op with
  | acked n bytes prior t clock =>
    have hlt := roundCount_lt_iff w.sender hs n bytes prior t clock
    unfold step HearsFresh
    dsimp only [BBRv3Sender.step]
    by_cases hround : (w.sender.onPacketAcked n bytes prior t clock).round.roundCount >
        w.sender.round.roundCount
    · obtain ⟨sentTime, hheard⟩ := hlt.mp hround
      rw [if_pos hround]
      unfold Counted at hw ⊢
      dsimp only
      by_cases hmem : n ∈ w.fresh
      · rw [if_pos hmem]
        exact ⟨fun _ _ _ => hmem, fun _ => hw⟩
      · rw [if_neg hmem]
        exact ⟨fun h => absurd h (List.cons_ne_nil _ _), fun h => absurd (h sentTime hheard) hmem⟩
    · rw [if_neg hround]
      exact ⟨fun _ sentTime hheard => absurd (hlt.mpr ⟨sentTime, hheard⟩) hround, fun _ => hw⟩
  | sent | lost | pacing | timeout | setMaxDatagramSize => exact ⟨fun _ => trivial, fun _ => hw⟩

/-- **Round counting, exactly**: along a run of a new sender every ack that starts a round is of a
packet that was sent after the round start before it, if and only if each ack that is heard is of a
packet that was sent after the last round start. -/
theorem counted_iff_hearsFresh (mds : Nat) (now initNow : Time) (ops : List Op) :
    (∀ w ∈ Machine.states step { sender := newBBRv3Sender mds now initNow } ops, w.Counted) ↔
      Machine.EachStep step HearsFresh { sender := newBBRv3Sender mds now initNow } ops :=
  Machine.forall_states_iff (I := fun w => w.sender.Started) (P := Counted)
    (fun w op hs _ => by rw [step_sender]; exact started_step w.sender op hs)
    (fun _ op hs hw => counted_step_iff op hs hw) ops _ (started_newBBRv3Sender mds now initNow) rfl

/-- One packet at a time. -/
def stopAndWait : List Op :=
  [.sent 0 1 1200, .acked 1 1200 1200 50000000 0, .sent 60000000 2 1200,
    .acked 2 1200 1200 110000000 0]

/-- A sender that waits for each ack counts its rounds. -/
theorem counted_stopAndWait :
    ∀ w ∈ Machine.states step { sender := newBBRv3Sender 1200 0 0 } stopAndWait, w.Counted := by
  refine (counted_iff_hearsFresh 1200 0 0 stopAndWait).mpr ⟨trivial, fun _ _ => ?_, trivial,
    fun _ _ => ?_, trivial⟩
  · decide
  · decide +kernel

/-- Three packets in flight. -/
def threeInFlight : List Op :=
  [.sent 0 1 1200, .sent 0 2 1200, .sent 0 3 1200, .acked 1 1200 3600 50000000 0,
    .acked 2 1200 2400 51000000 0, .acked 3 1200 1200 52000000 0]

/-- **Counterexample**: the second and the third packet were sent before the first round start, and
the ack of each of them starts another round. -/
theorem threeInFlight_miscounted :
    let start : RoundWatch := { sender := newBBRv3Sender 1200 0 0 }
    (Machine.run step start (threeInFlight.take 4)).sender.round.roundCount = 1 ∧
      (Machine.run step start threeInFlight).sender.round.roundCount = 3 ∧
      ¬ (Machine.run step start threeInFlight).Counted := by
  unfold Counted
  decide +kernel

end RoundWatch

end MoqQuic.BBRv3Sender
