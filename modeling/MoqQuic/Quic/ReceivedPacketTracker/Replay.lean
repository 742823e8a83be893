import MoqQuic.Lib.Outcome
import MoqQuic.Quic.ReceivedPacketTracker.Acks

/-!
# MoqQuic.Quic.ReceivedPacketTracker.Replay

Whether a packet number is accepted twice.

A limit of `DeleteBelow` keeps the numbers below it from being accepted again. The ranges that are
deleted because there are too many of them leave no such limit: `accepted_once` says that their
numbers, and only those, are accepted again.
-/

namespace MoqQuic.Quic

open ClosedRange Machine

namespace ReceivedPacketHistory

instance (rs : List Interval) (p : Int) : Decidable (Touches rs p) :=
  inferInstanceAs (Decidable (∃ r ∈ rs, r.start - 1 ≤ p ∧ p ≤ r.stop + 1))

namespace Run

variable {l : Run}

/-- What was accepted is not accepted again. -/
def Protected (l : Run) : Prop :=
  ∀ p ∈ l.accepted,
    l.history.isPotentiallyDuplicate p = true ∧ (l.history.receivedPacket p).1 = false

/-- The step does not add a range to a list that is full. -/
def Keeps (l : Run) : Op → Prop
  | .receivedPacket p => p < l.history.deletedBelow ∨ Touches l.history.ranges p ∨
      l.history.ranges.length < MaxNumAckRanges
  | .deleteBelow _ => True

instance (l : Run) (op : Op) : Decidable (l.Keeps op) := by
  cases op <;> unfold Keeps <;> infer_instance

/-- What is remembered was accepted. -/
structure Accepts (l : Run) : Prop extends Exact l where
  accepted : ∀ x ∈ elements l.history.ranges, x ∈ l.accepted

theorem accepted_receivedPacket (h : Exact l) (p : PacketNumber) {x : Int} :
    x ∈ (l.step (.receivedPacket p)).accepted ↔ x ∈ l.accepted ∨
      x = p ∧ l.history.deletedBelow ≤ p ∧ p ∉ elements l.history.ranges := by
  have hnew := h.wellFormed.isNew_iff p
  simp only [step]
  split
  · rename_i hisNew
    have hp := hnew.mp hisNew
    simp [hp]
  · rename_i hisNew
    have hp := mt hnew.mpr hisNew
    simp [hp]

theorem Accepts.step (h : Accepts l) (op : Op) : Accepts (l.step op) := by
  refine ⟨h.toExact.step op, fun x hx => ?_⟩
  cases op with
  | receivedPacket p =>
    rw [accepted_receivedPacket h.toExact]
    obtain ⟨hx, -⟩ := (h.wellFormed.mem_receivedPacket p).mp hx
    have haccepted := h.accepted x
    grind
  | deleteBelow p =>
    obtain ⟨-, -, hmem⟩ := h.wellFormed.deleteBelow p
    exact h.accepted x ((hmem x).mp hx).2

theorem accepts_new : Accepts {} where
  toExact := exact_new
  accepted _ hx := absurd hx notMem_elements_nil

/-- The numbers that are not accepted are those that are too old or remembered. -/
theorem protected_iff (h : Exact l) : Protected l ↔
    ∀ p ∈ l.accepted, p < l.history.deletedBelow ∨ p ∈ elements l.history.ranges := by
  refine forall₂_congr fun p _ => ?_
  have hnew := h.wellFormed.isNew_iff p
  have hdup := h.wellFormed.isPotentiallyDuplicate_iff p
  rw [hdup]
  constructor
  · exact And.left
  · intro hp
    refine ⟨hp, Bool.eq_false_iff.mpr fun htrue => ?_⟩
    obtain ⟨hle, hnot⟩ := hnew.mp htrue
    obtain hlt | hmem := hp
    · exact absurd hle (not_le.mpr hlt)
    · exact hnot hmem

/-- A number in a range that is forgotten is accepted again. -/
theorem Accepts.not_protected (h : Accepts l) {p : PacketNumber}
    (hpruned : l.history.pruned p ≠ []) : ¬ Protected (l.step (.receivedPacket p)) := by
  rw [protected_iff (h.toExact.step _)]
  intro hprotected
  have hp : ¬ p < l.history.deletedBelow := fun hlt => hpruned (by rw [pruned, if_pos hlt])
  obtain ⟨r, hr⟩ := List.exists_mem_of_ne_nil _ hpruned
  have hmem : r.start ∈ elements (l.history.pruned p) := by
    rw [pruned, if_neg hp] at hr ⊢
    exact ⟨r, hr, le_rfl, (h.wellFormed.added p).1.nonempty r (List.mem_of_mem_take hr)⟩
  -- the number was remembered or is the one of the packet
  have hadded := (l.history.mem_added hp).mpr (.inl hmem)
  rw [(h.wellFormed.added p).2.1] at hadded
  have haccepted : r.start ∈ (l.step (.receivedPacket p)).accepted := by
    rw [accepted_receivedPacket h.toExact]
    have hold := h.accepted r.start
    grind
  have hge : l.history.deletedBelow ≤ r.start := by
    obtain heq | hold := hadded
    · exact heq ▸ not_lt.mp hp
    · exact h.wellFormed.deletedBelow_le _ hold
  obtain hlt | hkept := hprotected _ haccepted
  · have hdeleted : (l.step (.receivedPacket p)).history.deletedBelow = l.history.deletedBelow :=
      l.history.deletedBelow_receivedPacket p
    rw [hdeleted] at hlt
    exact absurd hge (not_le.mpr hlt)
  · exact absurd (h.wellFormed.pruned_lt p hmem hkept) (lt_irrefl _)

/-- A step keeps the protection exactly if it forgets no range. -/
theorem Accepts.protected_step (h : Accepts l) (hprotected : Protected l) (op : Op) :
    Protected (l.step op) ↔ l.Keeps op := by
  cases op with
  | receivedPacket p =>
    rw [Keeps, ← h.wellFormed.pruned_eq_nil_iff]
    constructor
    · intro hnext
      by_contra hpruned
      exact h.not_protected hpruned hnext
    · intro hpruned
      rw [protected_iff h.toExact] at hprotected
      rw [protected_iff (h.toExact.step _)]
      intro x hx
      have hdeleted : (l.step (.receivedPacket p)).history.deletedBelow =
          l.history.deletedBelow := l.history.deletedBelow_receivedPacket p
      have hmem : x ∈ elements (l.step (.receivedPacket p)).history.ranges ↔ _ :=
        h.wellFormed.mem_receivedPacket p
      rw [accepted_receivedPacket h.toExact] at hx
      rw [hdeleted, hmem, hpruned]
      have hold := hprotected x
      simp only [notMem_elements_nil, not_false_eq_true, and_true]
      grind
  | deleteBelow p =>
    rw [Keeps, iff_true, protected_iff (h.toExact.step _)]
    rw [protected_iff h.toExact] at hprotected
    obtain ⟨-, hmax, hmem⟩ := h.wellFormed.deleteBelow p
    intro x hx
    have hle : l.history.deletedBelow ≤ (l.history.deleteBelow p).deletedBelow := by
      rw [hmax]
      exact le_max_right _ _
    simp only [Run.step, hmem]
    obtain hlt | hold := hprotected x hx
    · exact .inl (hlt.trans_le hle)
    · by_cases hlt : x < (l.history.deleteBelow p).deletedBelow
      · exact .inl hlt
      · exact .inr ⟨not_lt.mp hlt, hold⟩

end Run

end ReceivedPacketHistory

namespace AppDataReceivedPacketTracker

variable {h h' : AppDataReceivedPacketTracker}

theorem queueACK_eq {pn : PacketNumber} {ecn : ECN} {rcvTime : Time}
    (heq : h.queueACK pn ecn rcvTime = .ok h') :
    ∃ queue, h' = h.queuedOrSet queue rcvTime := by
  rw [queueACK] at heq
  obtain ⟨missing, hmissing, heq⟩ := Outcome.bind_eq_ok.mp heq
  cases hq : h.ackQueued with
  | true =>
    refine ⟨true, ?_⟩
    simp [bind, Except.bind, pure, Except.pure, hq] at heq
    rw [queuedOrSet, if_pos hq, heq]
  | false =>
    cases hshould : h.shouldQueueACK ecn missing with
    | error e => simp [bind, Except.bind, hq, hshould] at heq
    | ok queue =>
      refine ⟨queue, ?_⟩
      rw [queuedOrSet, if_neg (by simp [hq])]
      cases queue with
      | true =>
        simp [bind, Except.bind, pure, Except.pure, hq, hshould] at heq
        simp [← heq]
      | false =>
        simp [bind, Except.bind, pure, Except.pure, hq, hshould] at heq
        simp [← heq, hq]

theorem receivedPacket_history {pn : PacketNumber} {ecn : ECN} {rcvTime : Time}
    {ackEliciting : Bool} {err : Option TrackerError}
    (heq : h.receivedPacket pn ecn rcvTime ackEliciting = .ok (err, h')) :
    h'.packetHistory = (h.packetHistory.receivedPacket pn).2 := by
  obtain ⟨-, hbase, -⟩ := h.toReceivedPacketTracker.receivedPacket_spec pn ecn ackEliciting
  cases hnew : (h.packetHistory.receivedPacket pn).1 with
  | false =>
    rw [receivedPacket_old hnew] at heq
    cases heq
    rfl
  | true =>
    obtain ⟨hobs, -⟩ := h.observed_spec pn ecn rcvTime ackEliciting
    rw [receivedPacket_new hnew] at heq
    rw [← hbase, ← hobs]
    split at heq
    · cases hqueue : (h.observed pn ecn rcvTime ackEliciting).queueACK pn ecn rcvTime with
      | error e =>
        rw [hqueue] at heq
        cases heq
      | ok h'' =>
        rw [hqueue] at heq
        cases heq
        obtain ⟨queue, rfl⟩ := queueACK_eq hqueue
        rw [(TrackerRun.queuedOrSet_frame _ _ _).1]
    · cases heq
      rfl

end AppDataReceivedPacketTracker

namespace TrackerRun

open ReceivedPacketHistory.Run (Keeps Accepts)

variable {l l' : TrackerRun}

/-- What was accepted is a duplicate, and an error when it is received again. -/
def Protected (l : TrackerRun) : Prop :=
  ∀ p ∈ l.run.accepted, l.tracker.isPotentiallyDuplicate p = true ∧
    ∀ ecn rcvTime ackEliciting, ∃ tracker, l.tracker.receivedPacket p ecn rcvTime ackEliciting =
      .ok (some (.oldOrDuplicatePacket p), tracker)

/-- The call does not add a range to a list that is full. -/
def KeepsRanges (l : TrackerRun) : TrackerOp → Prop
  | .receivedPacket pn _ _ _ => l.run.Keeps (.receivedPacket pn)
  | _ => True

instance (l : TrackerRun) : (op : TrackerOp) → Decidable (l.KeepsRanges op)
  | .receivedPacket pn _ _ _ => inferInstanceAs (Decidable (l.run.Keeps (.receivedPacket pn)))
  | .ignoreBelow _ | .getAckFrame .. | .truncate _ => .isTrue trivial

structure Follows (l : TrackerRun) : Prop where
  history : l.tracker.packetHistory = l.run.history
  accepts : Accepts l.run

theorem protected_iff (h : Follows l) : Protected l ↔ l.run.Protected := by
  refine forall₂_congr fun p _ => and_congr ?_ ?_
  · rw [ReceivedPacketTracker.isPotentiallyDuplicate, h.history]
  · rw [← h.history]
    constructor
    · intro herr
      obtain ⟨tracker, heq⟩ := herr .ecnNon 0 false
      by_contra hnew
      rw [AppDataReceivedPacketTracker.receivedPacket_new (by simpa using hnew)] at heq
      cases heq
    · intro hold ecn rcvTime ackEliciting
      exact ⟨_, AppDataReceivedPacketTracker.receivedPacket_old hold ecn rcvTime ackEliciting⟩

/-- The history of the run after a call. -/
theorem Follows.step (h : Follows l) {op : TrackerOp} (hstep : l.step op = .ok l') :
    Follows l' ∧ (l.run.Protected → (l'.run.Protected ↔ l.KeepsRanges op)) := by
  cases op with
  | receivedPacket pn ecn rcvTime ackEliciting =>
    rw [TrackerRun.step] at hstep
    obtain ⟨r, heq, hstep⟩ := Outcome.bind_eq_ok.mp hstep
    obtain ⟨err, tracker⟩ := r
    have hhistory := AppDataReceivedPacketTracker.receivedPacket_history heq
    rw [h.history] at hhistory
    have hrun : l'.run = l.run.step (.receivedPacket pn) ∧ l'.tracker = tracker := by
      cases err <;> cases hstep <;> exact ⟨rfl, rfl⟩
    refine ⟨⟨?_, ?_⟩, fun hp => ?_⟩
    · rw [hrun.1, hrun.2, hhistory]
      rfl
    · rw [hrun.1]
      exact h.accepts.step _
    · rw [hrun.1]
      exact h.accepts.protected_step hp _
  | ignoreBelow pn =>
    rw [TrackerRun.step, AppDataReceivedPacketTracker.setIgnoreBelow] at hstep
    by_cases hle : pn ≤ l.tracker.ignoreBelow
    · rw [if_pos hle, if_pos hle] at hstep
      cases hstep
      exact ⟨⟨h.history, h.accepts⟩, fun hp => iff_of_true hp trivial⟩
    · rw [if_neg hle, if_neg hle] at hstep
      cases hstep
      refine ⟨⟨?_, h.accepts.step (.deleteBelow pn)⟩,
        fun hp => h.accepts.protected_step hp (.deleteBelow pn)⟩
      simp only [h.history]
      rfl
  | getAckFrame now onlyIfQueued =>
    rw [TrackerRun.step, AppDataReceivedPacketTracker.getAckFrame_eq] at hstep
    by_cases hwait : onlyIfQueued ∧ ¬ l.tracker.ackQueued ∧
        (l.tracker.ackAlarm = 0 ∨ l.tracker.ackAlarm > now) ∨ l.tracker.hasNewAck = false
    · rw [if_pos hwait] at hstep
      cases hstep
      exact ⟨⟨h.history, h.accepts⟩, fun hp => iff_of_true hp trivial⟩
    · rw [if_neg hwait] at hstep
      cases hstep
      exact ⟨⟨h.history, h.accepts⟩, fun hp => iff_of_true hp trivial⟩
  | truncate numRanges =>
    rw [TrackerRun.step] at hstep
    cases hstep
    exact ⟨⟨h.history, h.accepts⟩, fun hp => iff_of_true hp trivial⟩

theorem follows_of_reaches {G : TrackerRun → TrackerOp → Prop} (hl : Reaches step G {} l) :
    Follows l :=
  hl.invariant ⟨rfl, ReceivedPacketHistory.Run.accepts_new⟩ fun _ _ _ h _ hstep => (h.step hstep).1

/-- **Replay protection**: the numbers that a history accepted are not accepted again exactly as long
as no range is added to a list that is full. The same holds for a tracker: along the runs that add
no such range, and a call that adds one makes a number acceptable again. -/
theorem accepted_once (ops : List ReceivedPacketHistory.Op) (l l' : TrackerRun) (op : TrackerOp) :
    ((∀ l ∈ states ReceivedPacketHistory.Run.step {} ops, l.Protected) ↔
      EachStep ReceivedPacketHistory.Run.step Keeps {} ops) ∧
    (Reaches step KeepsRanges {} l → Protected l) ∧
    (Reaches step (fun _ _ => True) {} l → Protected l → l.step op = .ok l' →
      (Protected l' ↔ l.KeepsRanges op)) := by
  refine ⟨?_, fun hl => ?_, fun hl hp hstep => ?_⟩
  · refine forall_states_iff (I := Accepts) (fun _ op h _ => h.step op)
      (fun _ op h hp => h.protected_step hp op) ops {} ReceivedPacketHistory.Run.accepts_new ?_
    exact fun p hp => absurd hp List.not_mem_nil
  · refine (protected_iff (follows_of_reaches hl)).mpr ?_
    have hboth : Follows l ∧ l.run.Protected := by
      refine hl.invariant (I := fun l => Follows l ∧ l.run.Protected)
        ⟨⟨rfl, ReceivedPacketHistory.Run.accepts_new⟩, fun p hp => absurd hp List.not_mem_nil⟩ ?_
      intro l op l' h hop hstep
      obtain ⟨hfollows, hprotected⟩ := h.1.step hstep
      exact ⟨hfollows, (hprotected h.2).mpr hop⟩
    exact hboth.2
  · have h := follows_of_reaches hl
    obtain ⟨hfollows, hprotected⟩ := h.step hstep
    rw [protected_iff hfollows]
    exact hprotected ((protected_iff h).mp hp)

/-- Packets with a gap before each, up to the number of ranges that are kept, and one more. -/
def gaps : List ReceivedPacketHistory.Op :=
  (List.range 65).map fun i => .receivedPacket (2 * i)

/-- The first packet is accepted again once there are too many ranges. -/
theorem gaps_accepted_twice : 0 ∈ (Machine.run ReceivedPacketHistory.Run.step {} gaps).accepted ∧
    (Machine.run ReceivedPacketHistory.Run.step {} gaps).history.isPotentiallyDuplicate 0 = false ∧
    ((Machine.run ReceivedPacketHistory.Run.step {} gaps).history.receivedPacket 0).1 = true := by
  decide +kernel

/-- A few packets out of order, and one of them again. -/
def repeatedPacket : List ReceivedPacketHistory.Op :=
  [.receivedPacket 4, .receivedPacket 2, .deleteBelow 3, .receivedPacket 4, .receivedPacket 2]

theorem repeatedPacket_accepted_once :
    (Machine.run ReceivedPacketHistory.Run.step {} repeatedPacket).accepted = [4, 2] ∧
    (Machine.run ReceivedPacketHistory.Run.step {} repeatedPacket).Protected :=
  ⟨by decide, (accepted_once repeatedPacket {} {} (.ignoreBelow 0)).1.mpr (by decide) _
    (run_mem_states _ _)⟩

end TrackerRun

end MoqQuic.Quic
