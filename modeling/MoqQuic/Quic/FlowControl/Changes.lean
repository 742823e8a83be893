import MoqQuic.Quic.FlowControl

/-!
# MoqQuic.Quic.FlowControl.Changes

What the calls on a flow controller change.

A call on the receiving side does one of two things to a controller: it raises the highest offset
that was received (`Raised`), or it widens the window (`Tuned`). Either may start a new epoch of
the auto-tuning. The counts of a stream and of its connection move together, unless there is an
error.
-/

namespace MoqQuic.Quic

namespace BaseFlowController

variable {a b c : BaseFlowController}

/-- What a call on the receiving side never changes. -/
structure SameCounts (a b : BaseFlowController) : Prop where
  bytesSent : b.bytesSent = a.bytesSent
  sendWindow : b.sendWindow = a.sendWindow
  bytesRead : b.bytesRead = a.bytesRead
  maxReceiveWindowSize : b.maxReceiveWindowSize = a.maxReceiveWindowSize

theorem SameCounts.refl (a : BaseFlowController) : SameCounts a a := ⟨rfl, rfl, rfl, rfl⟩

/-! ## raising the highest offset -/

/-- Only the highest offset and the epoch change. -/
structure Raised (a b : BaseFlowController) : Prop extends SameCounts a b where
  receiveWindow : b.receiveWindow = a.receiveWindow
  receiveWindowSize : b.receiveWindowSize = a.receiveWindowSize
  highestReceived_le : a.highestReceived ≤ b.highestReceived

theorem Raised.refl (a : BaseFlowController) : Raised a a := ⟨.refl a, rfl, rfl, le_rfl⟩

/-! ## widening the window -/

/-- Only the window, its size and the epoch change. The window does not shrink, and its size grows
at most up to the maximum. -/
structure Tuned (a b : BaseFlowController) : Prop extends SameCounts a b where
  highestReceived : b.highestReceived = a.highestReceived
  receiveWindow_le : a.receiveWindow ≤ b.receiveWindow
  receiveWindowSize_le : a.receiveWindowSize ≤ b.receiveWindowSize
  le_max : b.receiveWindowSize = a.receiveWindowSize ∨ b.receiveWindowSize ≤ a.maxReceiveWindowSize

theorem Tuned.refl (a : BaseFlowController) : Tuned a a :=
  ⟨.refl a, rfl, le_rfl, le_rfl, .inl rfl⟩

theorem tuned_maybeAdjustWindowSize (a : BaseFlowController) (now : Time) (rtt : Duration)
    (allowed : Bool) : Tuned a (a.maybeAdjustWindowSize now rtt allowed) := by
  rw [maybeAdjustWindowSize]
  split
  · exact .refl a
  · simp only
    split
    · rename_i h
      exact ⟨⟨rfl, rfl, rfl, rfl⟩, rfl, le_rfl, h.2.1.le, .inr (min_le_right _ _)⟩
    · exact ⟨⟨rfl, rfl, rfl, rfl⟩, rfl, le_rfl, le_rfl, .inl rfl⟩

/-- At most three quarters of the window were left, so the new one does not end earlier. -/
theorem tuned_getWindowUpdate (a : BaseFlowController) (now : Time) (rtt : Duration)
    (allowed : Bool) : Tuned a (a.getWindowUpdate now rtt allowed).2 := by
  rw [getWindowUpdate]
  split
  · rename_i hupdate
    have htuned := tuned_maybeAdjustWindowSize a now rtt allowed
    have hsize := htuned.receiveWindowSize_le
    have hread := htuned.bytesRead
    simp only [hasWindowUpdate, decide_eq_true_eq] at hupdate
    refine ⟨⟨htuned.bytesSent, htuned.sendWindow, hread, htuned.maxReceiveWindowSize⟩,
      htuned.highestReceived, ?_, hsize, htuned.le_max⟩
    simp only
    omega
  · exact .refl a

end BaseFlowController

open BaseFlowController

namespace ConnectionFlowController

section

variable (c : ConnectionFlowController)

include c

theorem tuned_ensureMinimumWindowSize (inc : Nat) (now : Time)
    (allowed : Bool) : Tuned c.toBaseFlowController
      (c.ensureMinimumWindowSize inc now allowed).toBaseFlowController := by
  rw [ensureMinimumWindowSize]
  split
  · exact .refl _
  · simp only
    split
    · rename_i h
      exact ⟨⟨rfl, rfl, rfl, rfl⟩, rfl, le_rfl, h.1.le, .inr (min_le_right _ _)⟩
    · exact ⟨⟨rfl, rfl, rfl, rfl⟩, rfl, le_rfl, le_rfl, .inl rfl⟩

theorem raised_incrementHighestReceived (increment : Nat)
    (now : Time) : Raised c.toBaseFlowController
      (c.incrementHighestReceived increment now).1.toBaseFlowController := by
  simp only [incrementHighestReceived]
  split <;> exact ⟨⟨rfl, rfl, rfl, rfl⟩, rfl, rfl, Nat.le_add_right _ _⟩

theorem incrementHighestReceived_ok (increment : Nat) (now : Time) :
    (c.incrementHighestReceived increment now).1.highestReceived = c.highestReceived + increment ∧
      ((c.incrementHighestReceived increment now).2 = none →
        c.highestReceived + increment ≤ c.receiveWindow) := by
  simp only [incrementHighestReceived]
  split <;> simp [checkFlowControlViolation, startNewAutoTuningEpoch]

end

end ConnectionFlowController

namespace StreamFlow

variable {c c' : StreamFlow} {offset : Nat} {final : Bool} {now : Time}

/-! ## an offset is received -/

/-- What an offset that passes the checks does. -/
structure Received (c c' : StreamFlow) (offset : Nat) (final : Bool) : Prop where
  stream : Raised c.stream.toBaseFlowController c'.stream.toBaseFlowController
  connection : Raised c.connection.toBaseFlowController c'.connection.toBaseFlowController
  /-- the stream and the connection count the same -/
  balance : c'.connection.highestReceived + c.stream.highestReceived =
    c.connection.highestReceived + c'.stream.highestReceived
  le_highest : offset ≤ c'.stream.highestReceived
  receivedFinal : c'.stream.receivedFinalOffset = (c.stream.receivedFinalOffset || final)
  final : final = true → c'.stream.highestReceived = offset
  unchanged : c.stream.receivedFinalOffset = true →
    c'.stream.highestReceived = c.stream.highestReceived
  streamWindow : c'.stream.highestReceived = c.stream.highestReceived ∨
    c'.stream.highestReceived ≤ c.stream.receiveWindow
  connectionWindow : c'.connection.highestReceived = c.connection.highestReceived ∨
    c'.connection.highestReceived ≤ c.connection.receiveWindow

/-- A higher offset: an epoch may start, and the stream is raised before it is checked. -/
theorem raiseHighestReceived_eq (c : StreamFlow) (offset : Nat) (now : Time) :
    ∃ base : BaseFlowController, Raised c.stream.toBaseFlowController base ∧
      base.highestReceived = c.stream.highestReceived ∧
      c.raiseHighestReceived offset now =
        let stream := { c.stream with
          toBaseFlowController := { base with highestReceived := offset } }
        if stream.checkFlowControlViolation then
          ({ c with stream := stream },
            some (.streamLimit offset stream.streamID stream.receiveWindow))
        else
          let (connection, err) := c.connection.incrementHighestReceived
            (offset - base.highestReceived) now
          (⟨stream, connection⟩, err) := by
  refine ⟨if c.stream.highestReceived = 0 then
    c.stream.toBaseFlowController.startNewAutoTuningEpoch now else c.stream.toBaseFlowController,
    ?_, ?_, rfl⟩
  · split <;> exact ⟨⟨rfl, rfl, rfl, rfl⟩, rfl, rfl, le_rfl⟩
  · split <;> rfl

/-- A higher offset, whether that is an error or not. -/
theorem raised_raiseHighestReceived (c : StreamFlow) (now : Time)
    (hlt : c.stream.highestReceived < offset) :
    Raised c.stream.toBaseFlowController
        (c.raiseHighestReceived offset now).1.stream.toBaseFlowController ∧
      Raised c.connection.toBaseFlowController
        (c.raiseHighestReceived offset now).1.connection.toBaseFlowController ∧
      (c.raiseHighestReceived offset now).1.stream.receivedFinalOffset =
        c.stream.receivedFinalOffset := by
  obtain ⟨base, hbase, -, heq⟩ := c.raiseHighestReceived_eq offset now
  have hstream : Raised c.stream.toBaseFlowController { base with highestReceived := offset } :=
    { hbase with highestReceived_le := hlt.le }
  rw [heq]
  simp only
  split
  · exact ⟨hstream, .refl _, rfl⟩
  · exact ⟨hstream, ConnectionFlowController.raised_incrementHighestReceived _ _ _, rfl⟩

/-- A higher offset that passes the checks. -/
theorem raiseHighestReceived_ok (h : c.raiseHighestReceived offset now = (c', none)) :
    c'.stream.highestReceived = offset ∧ offset ≤ c.stream.receiveWindow ∧
      c'.connection.highestReceived =
        c.connection.highestReceived + (offset - c.stream.highestReceived) ∧
      c'.connection.highestReceived ≤ c.connection.receiveWindow := by
  obtain ⟨base, hbase, hhighest, heq⟩ := c.raiseHighestReceived_eq offset now
  rw [heq] at h
  simp only [checkFlowControlViolation, decide_eq_true_eq, hbase.receiveWindow, hhighest] at h
  split at h
  · have herr := (Prod.mk.inj h).2
    cases herr
  · rename_i hwindow
    obtain ⟨hc', herr⟩ := Prod.mk.inj h
    obtain ⟨hcount, hlimit⟩ := c.connection.incrementHighestReceived_ok
      (offset - c.stream.highestReceived) now
    subst hc'
    exact ⟨rfl, not_lt.mp hwindow, hcount, hcount.trans_le (hlimit herr)⟩

/-- The stream once its final offset is known, if this is it. -/
def withFinal (c : StreamFlow) (final : Bool) : StreamFlow :=
  { c with stream := { c.stream with
    receivedFinalOffset := c.stream.receivedFinalOffset || final } }

theorem updateHighestReceived_eq (c : StreamFlow) (offset : Nat) (final : Bool) (now : Time) :
    c.updateHighestReceived offset final now =
      let highest := c.stream.highestReceived
      if c.stream.receivedFinalOffset = true ∧ final = true ∧ offset ≠ highest then
        (c, some (.inconsistentFinalOffset c.stream.streamID highest offset))
      else if c.stream.receivedFinalOffset = true ∧ offset > highest then
        (c, some (.beyondFinalOffset offset c.stream.streamID highest))
      else if offset = highest then (c.withFinal final, none)
      else if offset < highest then
        (c.withFinal final,
          if final then some (.finalOffsetTooLow offset c.stream.streamID highest) else none)
      else (c.withFinal final).raiseHighestReceived offset now := by
  rw [updateHighestReceived, withFinal]
  cases final with
  | false => simp
  | true => simp

theorem raised_updateHighestReceived (c : StreamFlow) (offset : Nat) (final : Bool) (now : Time) :
    Raised c.stream.toBaseFlowController
        (c.updateHighestReceived offset final now).1.stream.toBaseFlowController ∧
      Raised c.connection.toBaseFlowController
        (c.updateHighestReceived offset final now).1.connection.toBaseFlowController := by
  rw [updateHighestReceived_eq]
  simp only
  split
  · exact ⟨.refl _, .refl _⟩
  split
  · exact ⟨.refl _, .refl _⟩
  split
  · exact ⟨.refl _, .refl _⟩
  split
  · exact ⟨.refl _, .refl _⟩
  · have hlt : (c.withFinal final).stream.highestReceived < offset :=
      lt_of_le_of_ne (not_lt.mp ‹_›) (Ne.symm ‹_›)
    have hraised := raised_raiseHighestReceived (c.withFinal final) now hlt
    exact ⟨hraised.1, hraised.2.1⟩

theorem received_updateHighestReceived (h : c.updateHighestReceived offset final now = (c', none)) :
    Received c c' offset final := by
  have hraised := raised_updateHighestReceived c offset final now
  rw [h] at hraised
  rw [updateHighestReceived_eq] at h
  simp only at h
  split at h
  · cases h
  split at h
  · cases h
  rename_i hbeyond
  split at h
  · rename_i heq
    obtain ⟨rfl, -⟩ := Prod.mk.inj h
    exact ⟨hraised.1, hraised.2, rfl, heq.le, rfl, fun _ => heq.symm, fun _ => rfl, .inl rfl, .inl rfl⟩
  split at h
  · rename_i hlt
    obtain ⟨rfl, herr⟩ := Prod.mk.inj h
    have hnot : final = false := by
      cases final
      · rfl
      · cases herr
    exact ⟨hraised.1, hraised.2, rfl, hlt.le, rfl, by simp [hnot], fun _ => rfl, .inl rfl, .inl rfl⟩
  · have hlt : (c.withFinal final).stream.highestReceived < offset :=
      lt_of_le_of_ne (not_lt.mp ‹_›) (Ne.symm ‹_›)
    have hflag := (raised_raiseHighestReceived (c.withFinal final) now hlt).2.2
    rw [h] at hflag
    obtain ⟨hhighest, hwindow, hconnection, hlimit⟩ := raiseHighestReceived_ok h
    simp only [withFinal] at hlt hwindow hconnection hlimit
    refine ⟨hraised.1, hraised.2, ?_, hhighest.ge, hflag, fun _ => hhighest, fun hreceived => ?_,
      .inr (hhighest.trans_le hwindow), .inr hlimit⟩
    · omega
    · exact absurd ⟨hreceived, hlt⟩ hbeyond

/-! ## the window of a stream -/

/-- **`GetWindowUpdate`** of a stream, which may widen the window of the connection too. -/
theorem tuned_getWindowUpdate (c : StreamFlow) (now : Time) (rtt : Duration)
    (allowed allowed' : Bool) :
    Tuned c.stream.toBaseFlowController
        (c.getWindowUpdate now rtt allowed allowed').2.stream.toBaseFlowController ∧
      Tuned c.connection.toBaseFlowController
        (c.getWindowUpdate now rtt allowed allowed').2.connection.toBaseFlowController ∧
      (c.getWindowUpdate now rtt allowed allowed').2.stream.receivedFinalOffset =
        c.stream.receivedFinalOffset := by
  rw [getWindowUpdate]
  split
  · exact ⟨.refl _, .refl _, rfl⟩
  · refine ⟨c.stream.toBaseFlowController.tuned_getWindowUpdate now rtt allowed, ?_, rfl⟩
    simp only
    split
    · exact c.connection.tuned_ensureMinimumWindowSize _ now allowed'
    · exact .refl _

/-! ## what is given up -/

theorem abandon_stream (c : StreamFlow) :
    c.abandon.stream = { c.stream with bytesRead := c.stream.highestReceived } := by
  rw [abandon]
  split <;> rfl

theorem abandon_connection (c : StreamFlow) :
    c.abandon.connection = { c.connection with bytesRead :=
      c.connection.bytesRead + (c.stream.highestReceived - c.stream.bytesRead) } := by
  rw [abandon]
  split
  · rfl
  · rename_i hnone
    rw [Nat.eq_zero_of_not_pos hnone]
    rfl

end StreamFlow

end MoqQuic.Quic
