import MoqQuic.Quic.ReceivedPacketHistory.Exact
import MoqQuic.Quic.ReceivedPacketTracker
import MoqQuic.Quic.SentPacketHandler.AckRanges

/-!
# MoqQuic.Quic.ReceivedPacketTracker.Acks

The frames of the tracker for application data, and when they are sent.

A run also says which packets have to be acknowledged: `pending` are the times at which the
ack-eliciting packets arrived since the last frame, and `awaiting` are the limits of the calls to
`IgnoreBelow` since which no packet above the limit was accepted. The connection sets a limit while it
handles a packet above it, and asks for a frame only once that packet is registered.
-/

namespace MoqQuic.Quic

open ClosedRange Machine

namespace Frames.AckFrame

variable {f : AckFrame}

theorem acksPacket_validated (h : f.validateAckRanges = true) (p : PacketNumber) :
    f.acksPacket p = some ((f.validated h).acksPacket p) := by
  have hspec := f.validateAckRanges_iff.mp h
  rw [acksPacket, Quic.AckFrame.acksPacket, lowestAcked_validated h, largestAcked_validated h]
  simp only [Option.bind_eq_bind, Option.bind_some]
  split
  · rfl
  · rename_i hbounds
    -- the lowest range does not start above the packet
    have hfound : (searchRange f.ackRanges p).isSome := by
      rw [Quic.AckFrame.searchRange_eq_find? hspec.2.1 hspec.2.2, List.find?_isSome]
      refine ⟨f.ackRanges.getLast hspec.1, List.getLast_mem _, ?_⟩
      have hlow : ¬ p < (f.ackRanges.getLast hspec.1).smallest := fun hlt => hbounds (.inl hlt)
      simpa using hlow
    obtain ⟨r, hr⟩ := Option.isSome_iff_exists.mp hfound
    have hr' : searchRange (f.validated h).ackRanges p = some r := hr
    rw [hr, hr']
    rfl

end Frames.AckFrame

/-! ## what the calls do -/

namespace ReceivedPacketTracker

variable (h : ReceivedPacketTracker) (pn : PacketNumber) (ecn : ECN) (ackEliciting : Bool)

@[simp] theorem count_packetHistory : (h.count ecn).packetHistory = h.packetHistory := by
  cases ecn <;> rfl

@[simp] theorem count_lastAck : (h.count ecn).lastAck = h.lastAck := by
  cases ecn <;> rfl

@[simp] theorem count_hasNewAck : (h.count ecn).hasNewAck = h.hasNewAck := by
  cases ecn <;> rfl

theorem receivedPacket_spec :
    (h.receivedPacket pn ecn ackEliciting).1 =
      (if (h.packetHistory.receivedPacket pn).1 then none else some (.oldOrDuplicatePacket pn)) ∧
    (h.receivedPacket pn ecn ackEliciting).2.packetHistory = (h.packetHistory.receivedPacket pn).2 ∧
    (h.receivedPacket pn ecn ackEliciting).2.lastAck = h.lastAck ∧
    (h.receivedPacket pn ecn ackEliciting).2.hasNewAck =
      (h.hasNewAck || (h.packetHistory.receivedPacket pn).1 && ackEliciting) := by
  rw [receivedPacket]
  cases hnew : (h.packetHistory.receivedPacket pn).1 with
  | false => simp [hnew]
  | true => cases ackEliciting <;> simp [hnew]

end ReceivedPacketTracker

namespace AppDataReceivedPacketTracker

variable {h : AppDataReceivedPacketTracker} {pn : PacketNumber} {ecn : ECN} {rcvTime : Time}

section

variable (hack : ∀ ack ∈ h.lastAck, ack.validateAckRanges = true)
include hack

theorem isMissing_ok (pn : PacketNumber) : ∃ b, h.isMissing pn = .ok b := by
  rw [isMissing]
  cases hlast : h.lastAck with
  | none => exact ⟨_, rfl⟩
  | some ack =>
    have hvalid := hack ack hlast
    simp only [Frames.AckFrame.largestAcked_validated hvalid,
      Frames.AckFrame.acksPacket_validated hvalid, orPanic]
    split
    · exact ⟨_, rfl⟩
    · simp only [bind, Except.bind]
      split
      · exact ⟨_, rfl⟩
      · exact ⟨_, rfl⟩

theorem hasNewMissingPackets_ok : ∃ b, h.hasNewMissingPackets = .ok b := by
  rw [hasNewMissingPackets]
  cases hlast : h.lastAck with
  | none => exact ⟨_, rfl⟩
  | some ack =>
    simp only [Frames.AckFrame.largestAcked_validated (hack ack hlast), orPanic]
    split
    · exact ⟨_, rfl⟩
    · split
      · exact ⟨_, rfl⟩
      · simp only [bind, Except.bind]
        split
        · exact ⟨_, rfl⟩
        · exact ⟨_, rfl⟩

/-- An ACK is queued for the second packet at the latest. -/
theorem shouldQueueACK_ok (ecn : ECN)
    (wasMissing : Bool) : ∃ b, h.shouldQueueACK ecn wasMissing = .ok b ∧
      (packetsBeforeAck ≤ h.ackElicitingPacketsReceivedSinceLastAck → b = true) := by
  rw [shouldQueueACK]
  by_cases hmissing : wasMissing = true
  · exact ⟨true, by rw [if_pos hmissing], fun _ => rfl⟩
  · by_cases hcount : h.ackElicitingPacketsReceivedSinceLastAck ≥ packetsBeforeAck
    · exact ⟨true, by rw [if_neg hmissing, if_pos hcount], fun _ => rfl⟩
    · obtain ⟨b, hb⟩ := hasNewMissingPackets_ok hack
      rw [if_neg hmissing, if_neg hcount, hb]
      cases b with
      | false => exact ⟨_, rfl, fun hle => absurd hle hcount⟩
      | true => exact ⟨_, rfl, fun _ => rfl⟩

end

/-- The tracker after an ACK was queued or the alarm was set. -/
def queuedOrSet (h : AppDataReceivedPacketTracker) (queue : Bool) (rcvTime : Time) :
    AppDataReceivedPacketTracker :=
  if h.ackQueued then h
  else if queue then { h with ackQueued := true, ackAlarm := 0 }
  else { h with ackAlarm := rcvTime + h.maxAckDelay }

theorem queueACK_ok (hack : ∀ ack ∈ h.lastAck, ack.validateAckRanges = true) (pn : PacketNumber)
    (ecn : ECN) (rcvTime : Time) : ∃ queue,
      h.queueACK pn ecn rcvTime = .ok (h.queuedOrSet queue rcvTime) ∧
      (packetsBeforeAck ≤ h.ackElicitingPacketsReceivedSinceLastAck → queue = true) := by
  obtain ⟨missing, hmissing⟩ := isMissing_ok hack pn
  obtain ⟨queue, hqueue, hcount⟩ := shouldQueueACK_ok hack ecn missing
  refine ⟨queue, ?_, hcount⟩
  rw [queueACK, hmissing, queuedOrSet]
  cases hq : h.ackQueued with
  | true => simp [bind, Except.bind, pure, Except.pure, hq]
  | false =>
    cases queue with
    | true => simp [bind, Except.bind, pure, Except.pure, hqueue]
    | false => simp [bind, Except.bind, pure, Except.pure, hqueue, hq]

/-- The tracker with a new packet, before an ACK is queued. -/
def observed (h : AppDataReceivedPacketTracker) (pn : PacketNumber) (ecn : ECN) (rcvTime : Time)
    (ackEliciting : Bool) : AppDataReceivedPacketTracker :=
  let h := { h with toReceivedPacketTracker :=
    (h.toReceivedPacketTracker.receivedPacket pn ecn ackEliciting).2 }
  let h := if pn ≥ h.largestObserved then
    { h with largestObserved := pn, largestObservedRcvdTime := rcvTime } else h
  if !ackEliciting then h
  else { h with
    ackElicitingPacketsReceivedSinceLastAck := h.ackElicitingPacketsReceivedSinceLastAck + 1 }

/-- What a packet does to the fields that matter for the ACKs. -/
theorem observed_spec (h : AppDataReceivedPacketTracker) (pn : PacketNumber) (ecn : ECN)
    (rcvTime : Time) (ackEliciting : Bool) :
    (h.observed pn ecn rcvTime ackEliciting).toReceivedPacketTracker =
      (h.toReceivedPacketTracker.receivedPacket pn ecn ackEliciting).2 ∧
    (h.observed pn ecn rcvTime ackEliciting).ignoreBelow = h.ignoreBelow ∧
    (h.observed pn ecn rcvTime ackEliciting).maxAckDelay = h.maxAckDelay ∧
    (h.observed pn ecn rcvTime ackEliciting).ackQueued = h.ackQueued ∧
    (h.observed pn ecn rcvTime ackEliciting).ackAlarm = h.ackAlarm ∧
    (h.observed pn ecn rcvTime ackEliciting).ackElicitingPacketsReceivedSinceLastAck =
      h.ackElicitingPacketsReceivedSinceLastAck + (if ackEliciting then 1 else 0) := by
  rw [observed]
  by_cases hle : pn ≥ h.largestObserved
  · cases ackEliciting <;> simp [hle]
  · cases ackEliciting <;> simp [hle]

theorem receivedPacket_old (hold : (h.packetHistory.receivedPacket pn).1 = false) (ecn : ECN)
    (rcvTime : Time) (ackEliciting : Bool) :
    h.receivedPacket pn ecn rcvTime ackEliciting = .ok (some (.oldOrDuplicatePacket pn),
      { h with packetHistory := (h.packetHistory.receivedPacket pn).2 }) := by
  rw [receivedPacket, ReceivedPacketTracker.receivedPacket]
  simp [hold]

theorem receivedPacket_new (hnew : (h.packetHistory.receivedPacket pn).1 = true) (ecn : ECN)
    (rcvTime : Time) (ackEliciting : Bool) :
    h.receivedPacket pn ecn rcvTime ackEliciting =
      if ackEliciting then
        (none, ·) <$> (h.observed pn ecn rcvTime ackEliciting).queueACK pn ecn rcvTime
      else .ok (none, h.observed pn ecn rcvTime ackEliciting) := by
  obtain ⟨herr, -⟩ := h.toReceivedPacketTracker.receivedPacket_spec pn ecn ackEliciting
  rw [hnew, if_pos rfl] at herr
  cases ackEliciting with
  | false | true =>
    simp only [receivedPacket, herr, observed]
    rfl

/-- **`ReceivedPacket`**: an old packet is an error, a packet that is not ack-eliciting is only
observed, and for the others an ACK is queued or the alarm is set. -/
theorem receivedPacket_cases (hack : ∀ ack ∈ h.lastAck, ack.validateAckRanges = true)
    (pn : PacketNumber) (ecn : ECN) (rcvTime : Time) (ackEliciting : Bool) :
    ((h.packetHistory.receivedPacket pn).1 = false ∧
      h.receivedPacket pn ecn rcvTime ackEliciting = .ok (some (.oldOrDuplicatePacket pn),
        { h with packetHistory := (h.packetHistory.receivedPacket pn).2 })) ∨
    ((h.packetHistory.receivedPacket pn).1 = true ∧ ackEliciting = false ∧
      h.receivedPacket pn ecn rcvTime ackEliciting =
        .ok (none, h.observed pn ecn rcvTime ackEliciting)) ∨
    ((h.packetHistory.receivedPacket pn).1 = true ∧ ackEliciting = true ∧ ∃ queue,
      h.receivedPacket pn ecn rcvTime ackEliciting =
        .ok (none, (h.observed pn ecn rcvTime ackEliciting).queuedOrSet queue rcvTime) ∧
      (packetsBeforeAck ≤ h.ackElicitingPacketsReceivedSinceLastAck + 1 → queue = true)) := by
  cases hnew : (h.packetHistory.receivedPacket pn).1 with
  | false => exact .inl ⟨rfl, receivedPacket_old hnew ecn rcvTime ackEliciting⟩
  | true =>
    have heq := receivedPacket_new hnew ecn rcvTime ackEliciting
    cases ackEliciting with
    | false => exact .inr (.inl ⟨rfl, rfl, heq⟩)
    | true =>
      obtain ⟨-, -, hlast, -⟩ := h.toReceivedPacketTracker.receivedPacket_spec pn ecn true
      have hobs := h.observed_spec pn ecn rcvTime true
      have hack' : ∀ ack ∈ (h.observed pn ecn rcvTime true).lastAck,
          ack.validateAckRanges = true := by
        rw [hobs.1, hlast]
        exact hack
      obtain ⟨queue, hqueue, hcount⟩ := queueACK_ok hack' pn ecn rcvTime
      rw [if_pos rfl, hqueue] at heq
      refine .inr (.inr ⟨rfl, rfl, queue, heq, fun hle => hcount ?_⟩)
      rw [hobs.2.2.2.2.2]
      exact hle

/-- **`GetAckFrame`**: the frame has the ranges of the history. -/
theorem getAckFrame_eq (h : AppDataReceivedPacketTracker) (now : Time) (onlyIfQueued : Bool) :
    h.getAckFrame now onlyIfQueued =
      if onlyIfQueued ∧ ¬ h.ackQueued ∧ (h.ackAlarm = 0 ∨ h.ackAlarm > now) ∨ h.hasNewAck = false
      then (none, h)
      else
        let ack := { h.ackFrame with delayTime := max 0 (now - h.largestObservedRcvdTime) }
        (some ack, { h with
          lastAck := some ack
          hasNewAck := false
          ackQueued := false
          ackAlarm := 0
          ackElicitingPacketsReceivedSinceLastAck := 0 }) := by
  rw [getAckFrame, ReceivedPacketTracker.getAckFrame]
  by_cases hwait : onlyIfQueued ∧ ¬ h.ackQueued ∧ (h.ackAlarm = 0 ∨ h.ackAlarm > now)
  · rw [if_pos hwait, if_pos (.inl hwait)]
  · rw [if_neg hwait]
    cases hnew : h.hasNewAck with
    | false => simp
    | true =>
      simp only [Bool.true_eq_false, or_false, if_neg hwait]
      rfl

end AppDataReceivedPacketTracker

/-! ## runs -/

/-- A tracker with what happened to it. -/
structure TrackerRun where
  tracker : AppDataReceivedPacketTracker := {}
  /-- the history with what happened to it -/
  run : ReceivedPacketHistory.Run := {}
  /-- when the ack-eliciting packets arrived that came after the last frame -/
  pending : List Time := []
  /-- the limits of `IgnoreBelow` since which no packet above the limit was accepted -/
  awaiting : List PacketNumber := []

inductive TrackerOp where
  | receivedPacket (pn : PacketNumber) (ecn : ECN) (rcvTime : Time) (ackEliciting : Bool)
  | ignoreBelow (pn : PacketNumber)
  | getAckFrame (now : Time) (onlyIfQueued : Bool)
  /-- the packer truncates the frame that it got, which is the one that the tracker keeps -/
  | truncate (numRanges : Nat)
  deriving DecidableEq, Repr

namespace TrackerRun

/-- The run with a packet that was accepted. -/
def accept (l : TrackerRun) (pn : PacketNumber) (rcvTime : Time) (ackEliciting : Bool) :
    TrackerRun :=
  { l with
    pending := if ackEliciting then l.pending ++ [rcvTime] else l.pending
    awaiting := l.awaiting.filter fun n => decide (pn < n) }

def step (l : TrackerRun) : TrackerOp → Except TrackerPanic TrackerRun
  | .receivedPacket pn ecn rcvTime ackEliciting => do
    let (err, tracker) ← l.tracker.receivedPacket pn ecn rcvTime ackEliciting
    let l := { l with tracker := tracker, run := l.run.step (.receivedPacket pn) }
    return if err.isSome then l else l.accept pn rcvTime ackEliciting
  | .ignoreBelow pn =>
    .ok { l with
      tracker := l.tracker.setIgnoreBelow pn
      run := if pn ≤ l.tracker.ignoreBelow then l.run else l.run.step (.deleteBelow pn)
      awaiting := l.awaiting ++ [pn] }
  | .getAckFrame now onlyIfQueued =>
    let (ack, tracker) := l.tracker.getAckFrame now onlyIfQueued
    .ok { l with tracker := tracker, pending := if ack.isSome then [] else l.pending }
  | .truncate numRanges =>
    .ok { l with tracker := { l.tracker with
      lastAck := l.tracker.lastAck.map fun ack =>
        { ack with ackRanges := ack.ackRanges.take numRanges } } }

/-- The calls that the connection makes: the clock is never at zero, a frame is only asked for once
the packet is registered that a limit came with, and a frame keeps a range. -/
def Allowed (l : TrackerRun) : TrackerOp → Prop
  | .receivedPacket pn _ rcvTime _ => 0 ≤ pn ∧ 0 < rcvTime
  | .ignoreBelow _ => True
  | .getAckFrame _ _ => l.awaiting = []
  | .truncate numRanges => 1 ≤ numRanges

instance (l : TrackerRun) (op : TrackerOp) : Decidable (l.Allowed op) := by
  cases op <;> unfold Allowed <;> infer_instance

/-- How the packets that are not acknowledged yet are going to be. -/
inductive Waits (ackQueued : Bool) (ackAlarm : Time) : List Time → Prop
  | nothing : ackQueued = false → ackAlarm = 0 → Waits ackQueued ackAlarm []
  | queued {pending : List Time} : ackQueued = true → pending ≠ [] →
      Waits ackQueued ackAlarm pending
  | alarm {r : Time} : ackQueued = false → ackAlarm = r + MaxAckDelay → 0 < r →
      Waits ackQueued ackAlarm [r]

/-- The history of the tracker is the one of the run, with the limit of the tracker. -/
structure Remembers (l : TrackerRun) : Prop where
  exact : l.run.Exact
  history : l.tracker.packetHistory = l.run.history
  nonneg : ∀ x ∈ l.run.received, 0 ≤ x
  limit : l.run.history.deletedBelow ≤ l.tracker.ignoreBelow ∧
    (l.tracker.ignoreBelow = 0 ∨ l.run.history.deletedBelow = l.tracker.ignoreBelow) ∧
    0 ≤ l.tracker.ignoreBelow

/-- What holds in every state. -/
structure Tracked (l : TrackerRun) : Prop extends Remembers l where
  delay : l.tracker.maxAckDelay = MaxAckDelay
  hasNewAck : l.tracker.hasNewAck = true ↔ l.pending ≠ []
  lastAck : ∀ ack ∈ l.tracker.lastAck, ack.validateAckRanges = true
  count : l.tracker.ackElicitingPacketsReceivedSinceLastAck = l.pending.length
  waits : Waits l.tracker.ackQueued l.tracker.ackAlarm l.pending
  /-- there is something to acknowledge when a frame is asked for -/
  remembered : l.pending ≠ [] → l.awaiting = [] → l.run.history.ranges ≠ []

variable {l l' : TrackerRun} {pn : PacketNumber}

/-! ## a packet is received -/

theorem Remembers.receivedPacket (h : Remembers l) (hpn : 0 ≤ pn)
    (tracker : AppDataReceivedPacketTracker)
    (hhistory : tracker.packetHistory = (l.tracker.packetHistory.receivedPacket pn).2)
    (hlimit : tracker.ignoreBelow = l.tracker.ignoreBelow) :
    Remembers { l with tracker := tracker, run := l.run.step (.receivedPacket pn) } where
  exact := h.exact.step (.receivedPacket pn)
  history := by
    rw [hhistory, h.history]
    rfl
  nonneg x hx := by
    obtain hx | rfl := hx
    · exact h.nonneg x hx
    · exact hpn
  limit := by
    have hdeleted : (l.run.step (.receivedPacket pn)).history.deletedBelow =
        l.run.history.deletedBelow := l.run.history.deletedBelow_receivedPacket pn
    rw [hdeleted, hlimit]
    exact h.limit

/-- A packet that is new is remembered, or one above it is. -/
theorem Remembers.ranges_ne_nil (h : Remembers l)
    (hne : (l.run.history.receivedPacket pn).1 = true ∨ l.run.history.ranges ≠ []) :
    (l.run.step (.receivedPacket pn)).history.ranges ≠ [] := by
  have hexact := h.exact.step (.receivedPacket pn)
  obtain hold | ⟨y, hy, -⟩ := hexact.highest pn (.inr rfl)
  · have hdeleted : (l.run.step (.receivedPacket pn)).history.deletedBelow =
        l.run.history.deletedBelow := l.run.history.deletedBelow_receivedPacket pn
    rw [hdeleted] at hold
    have hsame : l.run.history.receivedPacket pn = (false, l.run.history) := by
      rw [ReceivedPacketHistory.receivedPacket, if_pos hold]
    have hstep : (l.run.step (.receivedPacket pn)).history = l.run.history := by
      simp only [ReceivedPacketHistory.Run.step, hsame]
    rw [hstep]
    obtain hnew | hne := hne
    · rw [hsame] at hnew
      cases hnew
    · exact hne
  · intro hnil
    rw [hnil] at hy
    exact notMem_elements_nil hy

open AppDataReceivedPacketTracker in
/-- The second packet queues an ACK; the first may set the alarm. -/
theorem Waits.queuedOrSet {tracker : AppDataReceivedPacketTracker} {pending : List Time}
    (h : Waits tracker.ackQueued tracker.ackAlarm pending) (hdelay : tracker.maxAckDelay = MaxAckDelay)
    {rcvTime : Time} (htime : 0 < rcvTime) {queue : Bool}
    (hqueue : packetsBeforeAck ≤ pending.length + 1 → queue = true) :
    Waits (tracker.queuedOrSet queue rcvTime).ackQueued (tracker.queuedOrSet queue rcvTime).ackAlarm
      (pending ++ [rcvTime]) ∧
    (pending ≠ [] → (tracker.queuedOrSet queue rcvTime).ackQueued = true) := by
  rw [AppDataReceivedPacketTracker.queuedOrSet]
  cases h with
  | nothing hq ha =>
    rw [if_neg (by simp [hq])]
    refine ⟨?_, fun hne => absurd rfl hne⟩
    cases queue with
    | true => exact .queued rfl (by simp)
    | false => exact .alarm hq (by rw [if_neg (by decide), hdelay]) htime
  | queued hq hne =>
    rw [if_pos hq]
    exact ⟨.queued hq (by simp), fun _ => hq⟩
  | alarm hq ha hr =>
    rw [if_neg (by simp [hq]), hqueue (Nat.le_refl 2), if_pos rfl]
    exact ⟨.queued rfl (by simp), fun _ => rfl⟩

open AppDataReceivedPacketTracker in
/-- Queueing an ACK only changes the queue and the alarm. -/
theorem queuedOrSet_frame (tracker : AppDataReceivedPacketTracker) (queue : Bool) (rcvTime : Time) :
    (tracker.queuedOrSet queue rcvTime).toReceivedPacketTracker = tracker.toReceivedPacketTracker ∧
    (tracker.queuedOrSet queue rcvTime).ignoreBelow = tracker.ignoreBelow ∧
    (tracker.queuedOrSet queue rcvTime).maxAckDelay = tracker.maxAckDelay ∧
    (tracker.queuedOrSet queue rcvTime).ackElicitingPacketsReceivedSinceLastAck =
      tracker.ackElicitingPacketsReceivedSinceLastAck := by
  rw [queuedOrSet]
  split
  · exact ⟨rfl, rfl, rfl, rfl⟩
  · split
    · exact ⟨rfl, rfl, rfl, rfl⟩
    · exact ⟨rfl, rfl, rfl, rfl⟩

theorem Tracked.receivedPacket (h : Tracked l) (hpn : 0 ≤ pn) (ecn : ECN) {rcvTime : Time}
    (htime : 0 < rcvTime) (ackEliciting : Bool) :
    ∃ l', l.step (.receivedPacket pn ecn rcvTime ackEliciting) = .ok l' ∧ Tracked l' ∧
      (l.pending ≠ [] →
        l'.tracker.ackQueued = true ∨ l'.tracker.ackAlarm = l.tracker.ackAlarm) := by
  obtain ⟨herr, hbase, hlast, hnewAck⟩ :=
    l.tracker.toReceivedPacketTracker.receivedPacket_spec pn ecn ackEliciting
  obtain ⟨hobs, hbelow, hdelay, hqueued, halarm, hcount⟩ :=
    l.tracker.observed_spec pn ecn rcvTime ackEliciting
  have hhistory := h.history
  obtain ⟨hnew, heq⟩ | ⟨hnew, hae, heq⟩ | ⟨hnew, hae, queue, heq, hqueue⟩ :=
    AppDataReceivedPacketTracker.receivedPacket_cases h.lastAck pn ecn rcvTime ackEliciting
  · refine ⟨{ l with
      tracker := { l.tracker with packetHistory := (l.tracker.packetHistory.receivedPacket pn).2 }
      run := l.run.step (.receivedPacket pn) }, ?_, ?_, fun _ => .inr rfl⟩
    · rw [step, heq]
      rfl
    · have hrem := h.toRemembers.receivedPacket hpn { l.tracker with
        packetHistory := (l.tracker.packetHistory.receivedPacket pn).2 } rfl rfl
      exact { hrem, h with
        remembered := fun hp ha => h.ranges_ne_nil (.inr (h.remembered hp ha)) }
  · subst hae
    refine ⟨({ l with
      tracker := l.tracker.observed pn ecn rcvTime false
      run := l.run.step (.receivedPacket pn) } : TrackerRun).accept pn rcvTime false,
      by rw [step, heq]; rfl, ?_, fun _ => .inr halarm⟩
    have hrem := h.toRemembers.receivedPacket hpn (l.tracker.observed pn ecn rcvTime false)
      (by rw [hobs, hbase]) hbelow
    rw [hhistory] at hnew
    exact {
      exact := hrem.exact
      history := hrem.history
      nonneg := hrem.nonneg
      limit := hrem.limit
      delay := hdelay.trans h.delay
      hasNewAck := by
        simp only [accept, hobs, hnewAck, Bool.and_false, Bool.or_false]
        exact h.hasNewAck
      lastAck := by
        simp only [accept, hobs, hlast]
        exact h.lastAck
      count := hcount.trans h.count
      waits := by
        simp only [accept, hqueued, halarm]
        exact h.waits
      remembered := fun _ _ => h.ranges_ne_nil (.inl hnew) }
  · subst hae
    obtain ⟨hbase', hbelow', hdelay', hcount'⟩ :=
      queuedOrSet_frame (l.tracker.observed pn ecn rcvTime true) queue rcvTime
    have hwaits := h.waits
    rw [← hqueued, ← halarm] at hwaits
    obtain ⟨hwaits, hsecond⟩ := hwaits.queuedOrSet (hdelay.trans h.delay) htime
      (by rw [← h.count]; exact hqueue)
    refine ⟨({ l with
      tracker := (l.tracker.observed pn ecn rcvTime true).queuedOrSet queue rcvTime
      run := l.run.step (.receivedPacket pn) } : TrackerRun).accept pn rcvTime true,
      by rw [step, heq]; rfl, ?_, fun hne => .inl (hsecond hne)⟩
    have hrem := h.toRemembers.receivedPacket hpn
      ((l.tracker.observed pn ecn rcvTime true).queuedOrSet queue rcvTime)
      (by rw [hbase', hobs, hbase]) (hbelow'.trans hbelow)
    rw [hhistory] at hnew
    exact {
      exact := hrem.exact
      history := hrem.history
      nonneg := hrem.nonneg
      limit := hrem.limit
      delay := hdelay'.trans (hdelay.trans h.delay)
      hasNewAck := by
        simp [accept, hbase', hobs, hnewAck, hnew, hhistory]
      lastAck := by
        simp only [accept, hbase', hobs, hlast]
        exact h.lastAck
      count := by
        simp [accept, hcount', hcount, h.count]
      waits := hwaits
      remembered := fun _ _ => h.ranges_ne_nil (.inl hnew) }

/-! ## the other calls -/

theorem Tracked.ignoreBelow (h : Tracked l) (pn : PacketNumber) {l' : TrackerRun}
    (hstep : l.step (.ignoreBelow pn) = .ok l') :
    Tracked l' ∧ l'.tracker.ackQueued = l.tracker.ackQueued ∧
      l'.tracker.ackAlarm = l.tracker.ackAlarm := by
  rw [step, AppDataReceivedPacketTracker.setIgnoreBelow] at hstep
  by_cases hle : pn ≤ l.tracker.ignoreBelow
  · rw [if_pos hle, if_pos hle] at hstep
    cases hstep
    exact ⟨{ h with remembered := fun _ ha => absurd ha (by simp) }, rfl, rfl⟩
  · rw [if_neg hle, if_neg hle] at hstep
    cases hstep
    have hlt : l.tracker.ignoreBelow < pn := not_le.mp hle
    have hdeleted := (h.exact.wellFormed.deleteBelow pn).2.1
    rw [max_eq_left (h.limit.1.trans hlt.le)] at hdeleted
    refine ⟨{ h with
      exact := h.exact.step (.deleteBelow pn)
      history := ?_
      limit := ⟨hdeleted.le, .inr hdeleted, h.limit.2.2.trans hlt.le⟩
      remembered := fun _ ha => absurd ha (by simp) }, rfl, rfl⟩
    simp only [h.history]
    rfl

theorem Tracked.truncate (h : Tracked l) {numRanges : Nat} (hpos : 1 ≤ numRanges) {l' : TrackerRun}
    (hstep : l.step (.truncate numRanges) = .ok l') :
    Tracked l' ∧ l'.tracker.ackQueued = l.tracker.ackQueued ∧
      l'.tracker.ackAlarm = l.tracker.ackAlarm := by
  rw [step] at hstep
  cases hstep
  refine ⟨{ h with lastAck := fun ack hack => ?_ }, rfl, rfl⟩
  obtain ⟨full, hfull, rfl⟩ := Option.map_eq_some_iff.mp hack
  obtain ⟨hne, hvalid, hdesc⟩ := full.validateAckRanges_iff.mp (h.lastAck full hfull)
  rw [Frames.AckFrame.validateAckRanges_iff]
  refine ⟨?_, fun r hr => hvalid r (List.mem_of_mem_take hr), hdesc.sublist (List.take_sublist _ _)⟩
  rw [ne_eq, List.take_eq_nil_iff, not_or]
  exact ⟨by omega, hne⟩

/-! ## the frames -/

/-- A frame that acknowledges what was received, up to the largest packet that is not ignored. -/
structure Acknowledges (l : TrackerRun) (f : Frames.AckFrame) : Prop where
  nonempty : f.ackRanges ≠ []
  valid : ∀ r ∈ f.ackRanges, r.smallest ≤ r.largest
  descending : f.ackRanges.Pairwise fun r r' => r'.largest + 1 < r.smallest
  received : ∀ r ∈ f.ackRanges, ∀ x, r.smallest ≤ x → x ≤ r.largest → x ∈ l.run.received
  largest : ∃ m, f.largestAcked = some m ∧
    IsGreatest {x | x ∈ l.run.received ∧ l.tracker.ignoreBelow ≤ x} m

/-- What is received and not ignored is remembered, or something above it. -/
theorem Remembers.isGreatest (h : Remembers l) {m : Int}
    (hm : IsGreatest (elements l.run.history.ranges) m) :
    IsGreatest {x | x ∈ l.run.received ∧ l.tracker.ignoreBelow ≤ x} m := by
  obtain ⟨hreceived, hdeleted, -⟩ := (h.exact.mem_iff m).mp hm.1
  obtain ⟨hle, hlimit, -⟩ := h.limit
  refine ⟨⟨hreceived, ?_⟩, fun x hx => ?_⟩
  · obtain hzero | heq := hlimit
    · rw [hzero]
      exact h.nonneg m hreceived
    · exact heq ▸ hdeleted
  · obtain hold | ⟨y, hy, hxy⟩ := h.exact.highest x hx.1
    · exact absurd (hle.trans hx.2) (not_le.mpr hold)
    · exact hxy.trans (hm.2 hy)

/-- The ranges of the history make a frame. -/
theorem Remembers.acknowledges (h : Remembers l) (hne : l.run.history.ranges ≠ [])
    (delay : Duration) :
    Acknowledges l { l.tracker.ackFrame with delayTime := delay } := by
  have hdesc := descending_reverse.mpr h.exact.wellFormed.ascending
  have hranges : l.tracker.ackFrame.ackRanges =
      l.run.history.ranges.reverse.map fun r => { smallest := r.start, largest := r.stop } := by
    rw [ReceivedPacketTracker.ackFrame, h.history]
    rfl
  constructor
  · simp [hranges, hne]
  · intro r hr
    simp only [hranges] at hr
    obtain ⟨r, hmem, rfl⟩ := List.mem_map.mp hr
    exact hdesc.nonempty r hmem
  · simp only [hranges, List.pairwise_map]
    exact hdesc.apart
  · intro r hr x hlow hhigh
    simp only [hranges] at hr
    obtain ⟨r, hmem, rfl⟩ := List.mem_map.mp hr
    have hx : x ∈ elements l.run.history.ranges := ⟨r, List.mem_reverse.mp hmem, hlow, hhigh⟩
    exact ((h.exact.mem_iff x).mp hx).1
  · cases hrev : l.run.history.ranges.reverse with
    | nil => exact absurd (List.reverse_eq_nil_iff.mp hrev) hne
    | cons last rs =>
      refine ⟨last.stop, by simp [Frames.AckFrame.largestAcked, hranges, hrev], ?_⟩
      rw [hrev] at hdesc
      apply h.isGreatest
      rw [← elements_reverse, hrev]
      exact ⟨mem_elements_cons.mpr (.inl ⟨(descending_cons.mp hdesc).1, le_rfl⟩),
        fun x hx => hdesc.le_head hx⟩

theorem Tracked.acknowledges (h : Tracked l) (hawaiting : l.awaiting = []) (now : Time)
    (onlyIfQueued : Bool) {f : Frames.AckFrame}
    (hf : (l.tracker.getAckFrame now onlyIfQueued).1 = some f) : Acknowledges l f := by
  rw [AppDataReceivedPacketTracker.getAckFrame_eq] at hf
  split at hf
  · cases hf
  · rename_i hready
    cases hf
    have hpending : l.pending ≠ [] := by
      rw [← h.hasNewAck]
      simpa using fun hnew => hready (.inr hnew)
    exact h.toRemembers.acknowledges (h.remembered hpending hawaiting) _

theorem Tracked.getAckFrame (h : Tracked l) (hawaiting : l.awaiting = []) (now : Time)
    (onlyIfQueued : Bool) {l' : TrackerRun}
    (hstep : l.step (.getAckFrame now onlyIfQueued) = .ok l') :
    Tracked l' ∧ (l'.pending ≠ [] → l'.tracker = l.tracker) := by
  have hack := fun f => h.acknowledges hawaiting now onlyIfQueued (f := f)
  rw [AppDataReceivedPacketTracker.getAckFrame_eq] at hack
  rw [step, AppDataReceivedPacketTracker.getAckFrame_eq] at hstep
  by_cases hwait : onlyIfQueued ∧ ¬ l.tracker.ackQueued ∧
      (l.tracker.ackAlarm = 0 ∨ l.tracker.ackAlarm > now) ∨ l.tracker.hasNewAck = false
  · rw [if_pos hwait] at hstep
    cases hstep
    exact ⟨h, fun _ => rfl⟩
  · rw [if_neg hwait] at hack hstep
    cases hstep
    have hf := hack _ rfl
    refine ⟨{ h with
      hasNewAck := by simp
      lastAck := fun ack hlast => ?_
      count := rfl
      waits := .nothing rfl rfl
      remembered := fun hne => absurd rfl hne }, fun hne => absurd rfl hne⟩
    cases hlast
    exact (Frames.AckFrame.validateAckRanges_iff _).mpr ⟨hf.nonempty, hf.valid, hf.descending⟩

/-! ## every run -/

/-- What a step leads to, and what it does to the alarm. -/
theorem Tracked.step (h : Tracked l) {op : TrackerOp} (hop : Allowed l op) :
    ∃ l', l.step op = .ok l' ∧ Tracked l' ∧ (l.pending ≠ [] → l'.pending ≠ [] →
      l'.tracker.ackQueued = true ∨ l'.tracker.ackAlarm = l.tracker.ackAlarm) := by
  cases op with
  | receivedPacket pn ecn rcvTime ackEliciting =>
    obtain ⟨l', hstep, htracked, halarm⟩ := h.receivedPacket hop.1 ecn hop.2 ackEliciting
    exact ⟨l', hstep, htracked, fun hne _ => halarm hne⟩
  | ignoreBelow pn =>
    obtain ⟨htracked, -, halarm⟩ := h.ignoreBelow pn rfl
    exact ⟨_, rfl, htracked, fun _ _ => .inr halarm⟩
  | getAckFrame now onlyIfQueued =>
    obtain ⟨htracked, hsame⟩ := h.getAckFrame hop now onlyIfQueued rfl
    exact ⟨_, rfl, htracked, fun _ hne => .inr (by rw [hsame hne])⟩
  | truncate numRanges =>
    obtain ⟨htracked, -, halarm⟩ := h.truncate hop rfl
    exact ⟨_, rfl, htracked, fun _ _ => .inr halarm⟩

theorem tracked_new : Tracked {} where
  exact := ReceivedPacketHistory.Run.exact_new
  history := rfl
  nonneg x hx := absurd hx (Set.notMem_empty x)
  limit := by decide
  delay := rfl
  hasNewAck := by simp
  lastAck ack hack := by cases hack
  count := rfl
  waits := .nothing rfl rfl
  remembered hne := absurd rfl hne

theorem tracked_of_reaches (hl : Reaches step Allowed {} l) : Tracked l := by
  refine hl.invariant tracked_new fun l op l' h hop hstep => ?_
  obtain ⟨l'', hstep', h', -⟩ := h.step hop
  rw [hstep] at hstep'
  cases hstep'
  exact h'

/-- An ACK is queued, or the alarm is early enough. -/
theorem Tracked.inTime (h : Tracked l) {r : Time} (hr : r ∈ l.pending) :
    l.tracker.ackQueued = true ∨ l.tracker.ackAlarm ≠ 0 ∧ l.tracker.ackAlarm ≤ r + MaxAckDelay := by
  have hwaits := h.waits
  cases hpending : l.pending with
  | nil =>
    rw [hpending] at hr
    cases hr
  | cons t ts =>
    rw [hpending] at hr hwaits
    cases hwaits with
    | queued hq _ => exact .inl hq
    | alarm _ halarm hpos =>
      rw [List.mem_singleton] at hr
      rw [halarm, hr]
      have hdelay : (0 : Int) < MaxAckDelay := by decide
      have hle : t + MaxAckDelay ≤ t + MaxAckDelay := le_rfl
      exact .inr ⟨(Int.add_pos hpos hdelay).ne', hle⟩

/-- **ACK generation**: in every state of every run, a frame that is returned has ranges in
descending order with gaps between them, of packets that were received, up to the largest that is
not ignored; an ack-eliciting packet without a frame has an ACK queued or the alarm set to at most
`max_ack_delay` after it, so that there is a frame from then on; and no step sets the alarm of such a
packet to another time. No call panics. -/
theorem acks_in_time (hl : Reaches step Allowed {} l) :
    (∀ now onlyIfQueued f, Allowed l (.getAckFrame now onlyIfQueued) →
      (l.tracker.getAckFrame now onlyIfQueued).1 = some f → Acknowledges l f) ∧
    (∀ r ∈ l.pending,
      (l.tracker.ackQueued = true ∨ l.tracker.ackAlarm ≠ 0 ∧ l.tracker.ackAlarm ≤ r + MaxAckDelay) ∧
      ∀ now, r + MaxAckDelay ≤ now → ∃ f, (l.tracker.getAckFrame now true).1 = some f) ∧
    (∀ op l', Allowed l op → l.step op = .ok l' → l.pending ≠ [] → l'.pending ≠ [] →
      l'.tracker.ackQueued = true ∨ l'.tracker.ackAlarm = l.tracker.ackAlarm) ∧
    (∀ op, Allowed l op → ∃ l', l.step op = .ok l') := by
  have h := tracked_of_reaches hl
  refine ⟨fun now onlyIfQueued f hop hf => h.acknowledges hop now onlyIfQueued hf, fun r hr => ?_,
    fun op l' hop hstep => ?_, fun op hop => ?_⟩
  · have htime := h.inTime hr
    refine ⟨htime, fun now hnow => ?_⟩
    have hnew : l.tracker.hasNewAck = true := h.hasNewAck.mpr (List.ne_nil_of_mem hr)
    rw [AppDataReceivedPacketTracker.getAckFrame_eq, if_neg]
    · exact ⟨_, rfl⟩
    · rw [hnew]
      grind
  · obtain ⟨l'', hstep', -, halarm⟩ := h.step hop
    rw [hstep] at hstep'
    cases hstep'
    exact halarm
  · obtain ⟨l', hstep, -⟩ := h.step hop
    exact ⟨l', hstep⟩

/-- A second packet arrives after a frame for the first one. -/
def delayedPacket : List TrackerOp :=
  [.receivedPacket 0 .ecnNon 1 true, .getAckFrame 2 false, .ignoreBelow 1,
    .receivedPacket 1 .ecnNon 5 true]

theorem delayedPacket_acked_in_time : ∃ l, delayedPacket.foldlM step {} = .ok l ∧
    l.pending = [5] ∧ l.tracker.ackQueued = false ∧
    ∀ now, 5 + MaxAckDelay ≤ now → ∃ f, (l.tracker.getAckFrame now true).1 = some f :=
  ⟨_, rfl, rfl, rfl,
    ((acks_in_time (reaches_foldlM delayedPacket (by decide) rfl .refl)).2.1 5
      List.mem_cons_self).2⟩

end TrackerRun

end MoqQuic.Quic
