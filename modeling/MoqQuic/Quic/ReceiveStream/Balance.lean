import MoqQuic.Quic.FlowControl.Changes
import MoqQuic.Quic.ReceiveStream.Reading

/-!
# MoqQuic.Quic.ReceiveStream.Balance

The flow control credit of a receive stream.

Data that was received counts against the window of the connection until it is read or given up.
`Balanced` says where the credit of a stream stands at any time: what was read is returned, and
once the stream is cancelled and its final size is known, the rest is given up. Each method of the
stream keeps it, whatever the peer sends.
-/

namespace MoqQuic.Quic

open Outcome Parse

/-! ## the balance of a stream -/

namespace ReceiveStream

variable {κ : Type} {base : Nat} {s : ReceiveStream κ}

/-- The final size is known, and all of it was returned. -/
def Settled (s : ReceiveStream κ) : Prop :=
  s.flowController.stream.receivedFinalOffset = true ∧
    s.flowController.stream.bytesRead = s.flowController.stream.highestReceived

/-- The stream was read to its end. -/
def Ended (s : ReceiveStream κ) : Prop :=
  s.flowController.stream.receivedFinalOffset = true ∧ s.finalOffset ≤ s.readPos

/-- Where the credit of a stream stands; the connection has `base` from elsewhere. -/
structure Balanced (base : Nat) (s : ReceiveStream κ) : Prop where
  credit : s.flowController.connection.bytesRead = base + s.flowController.stream.bytesRead
  sorter : s.frameQueue.Within s.flowController.stream.highestReceived
  position : s.readPos + s.rest.length = s.frameQueue.readPos
  known : s.flowController.stream.receivedFinalOffset = true →
    s.flowController.stream.highestReceived = s.finalOffset
  unknown : s.flowController.stream.receivedFinalOffset = false → s.finalOffset = MaxByteCount
  /-- what was read is returned, until the rest is given up -/
  read : s.flowController.stream.bytesRead = s.readPos ∨ s.isCancelled = true ∧ s.Settled
  remote : s.cancelledRemotely = true → s.flowController.stream.receivedFinalOffset = true
  effective : s.isRemoteCancellationEffective = true → s.Settled
  last : s.currentFrameIsLast = true →
    s.flowController.stream.receivedFinalOffset = true ∧ s.finalOffset ≤ s.frameQueue.readPos
  ended : s.errorRead = true → s.isCancelled = true ∨ s.Ended

section

variable (h : Balanced base s)

include h

theorem Balanced.readPos_le : s.readPos ≤ s.flowController.stream.highestReceived := by
  have hpos := h.position
  have hle := h.sorter.readPos_le
  omega

theorem Balanced.bytesRead_le :
    s.flowController.stream.bytesRead ≤ s.flowController.stream.highestReceived := by
  cases h.read with
  | inl heq => exact heq ▸ h.readPos_le
  | inr hsettled => exact hsettled.2.2.le

/-- A stream that was read to its end has nothing left to return. -/
theorem Balanced.settled_of_ended (hended : s.Ended) : s.Settled := by
  refine ⟨hended.1, ?_⟩
  cases h.read with
  | inl heq =>
    have hknown := h.known hended.1
    have hle := h.readPos_le
    have hend := hended.2
    omega
  | inr hsettled => exact hsettled.2.2

/-! ## reading -/

theorem Balanced.dequeueNextFrame (hrest : s.rest = []) :
    Holds (fun _ => True) (Balanced base) s.dequeueNextFrame := by
  have hposition : s.readPos = s.frameQueue.readPos := by
    have hpos := h.position
    rw [hrest] at hpos
    exact hpos
  rw [ReceiveStream.dequeueNextFrame]
  refine h.sorter.pop.bind ?_
  rintro ⟨queue, offset, frame, done⟩ ⟨hwithin, hoffset, hread⟩
  have hlt := hwithin.readPos_lt
  simp only at hoffset hread hlt
  refine { h with
    sorter := ⟨hwithin.readPos_le, hlt, hwithin.queue, hwithin.gaps⟩
    position := ?_
    last := fun hlast => ?_ }
  · simp only [rest, List.drop_zero]
    omega
  · simp only [Bool.and_eq_true, decide_eq_true_eq] at hlast
    have hfinal : s.finalOffset ≤ queue.readPos := by omega
    refine ⟨?_, hfinal⟩
    -- an unknown final offset is out of reach
    by_contra hunknown
    have hmax := h.unknown (by simpa using hunknown)
    omega

theorem Balanced.readFlow (hcancelled : s.isCancelled = false) {m : Nat} (hm : m ≤ s.rest.length) :
    (s.readFlow m).connection.bytesRead = base + (s.readFlow m).stream.bytesRead ∧
      (s.readFlow m).stream.highestReceived = s.flowController.stream.highestReceived ∧
      (s.readFlow m).stream.receivedFinalOffset = s.flowController.stream.receivedFinalOffset ∧
      (s.readFlow m).stream.bytesRead =
        if s.cancelledRemotely = true ∧ s.readPos + m ≥ s.reliableSize then
          s.flowController.stream.highestReceived else s.readPos + m := by
  have hcredit := h.credit
  have hposition := h.position
  have hwithin := h.sorter.readPos_le
  have heffective : s.isRemoteCancellationEffective = false := by
    simp only [isCancelled, Bool.or_eq_false_iff] at hcancelled
    exact hcancelled.2
  have hread : s.flowController.stream.bytesRead = s.readPos := by
    cases h.read with
    | inl heq => exact heq
    | inr hsettled =>
      rw [hcancelled] at hsettled
      cases hsettled.1
  simp only [ReceiveStream.readFlow, heffective, Bool.false_eq_true, if_false]
  split
  · rw [StreamFlow.abandon_connection, StreamFlow.abandon_stream]
    refine ⟨?_, rfl, rfl, rfl⟩
    simp only [StreamFlow.addBytesRead, ConnectionFlowController.addBytesRead,
      BaseFlowController.addBytesRead]
    omega
  · refine ⟨?_, rfl, rfl, ?_⟩
    · simp only [StreamFlow.addBytesRead, ConnectionFlowController.addBytesRead,
        BaseFlowController.addBytesRead]
      omega
    · simp only [StreamFlow.addBytesRead]
      omega

theorem Balanced.copyFrame (hcancelled : s.isCancelled = false)
    (len : Nat) (progress : ReadProgress) : Balanced base (s.copyFrame len progress).1 := by
  rw [copyFrame_eq]
  generalize hm : (s.rest.take (len - progress.data.length)).length = m
  have hle : m ≤ s.rest.length := by
    rw [← hm, List.length_take]
    exact min_le_right _ _
  obtain ⟨hcredit, hhighest, hfinal, hbytes⟩ := h.readFlow hcancelled hle
  have hposition := h.position
  constructor
  · exact hcredit
  · simp only [hhighest]
    exact h.sorter
  · have hlen : s.rest.length = (s.currentFrame.getD []).length - s.readPosInFrame := List.length_drop
    simp only [rest, List.length_drop]
    omega
  · simp only [hfinal, hhighest]
    exact h.known
  · simp only [hfinal]
    exact h.unknown
  · simp only [hbytes, isCancelled, isRemoteCancellationEffective, Settled, hfinal, hhighest]
    split
    · rename_i heffective
      refine .inr ⟨?_, h.remote heffective.1, rfl⟩
      simp [heffective.1, heffective.2]
    · exact .inl rfl
  · simp only [hfinal]
    exact h.remote
  · intro heffective
    simp only [isRemoteCancellationEffective, Bool.and_eq_true, decide_eq_true_eq] at heffective
    simp only [Settled, hfinal, hhighest, hbytes, if_pos heffective]
    exact ⟨h.remote heffective.1, trivial⟩
  · simp only [hfinal]
    exact h.last
  · intro herror
    cases h.ended herror with
    | inl hcancel =>
      rw [hcancelled] at hcancel
      cases hcancel
    | inr hended =>
      refine .inr ⟨?_, ?_⟩
      · simp only [hfinal]
        exact hended.1
      · have hle' := hended.2
        simp only
        omega

end

/-- What no method takes back. -/
structure Advances (s s' : ReceiveStream κ) : Prop where
  completed : s'.completed = s.completed
  cancelled : s.cancelledLocally = true → s'.cancelledLocally = true
  bytesRead_le : s.flowController.stream.bytesRead ≤ s'.flowController.stream.bytesRead
  received : s.flowController.stream.receivedFinalOffset = true →
    s'.flowController.stream.receivedFinalOffset = true ∧
      s'.flowController.stream.highestReceived = s.flowController.stream.highestReceived ∧
      s'.finalOffset = s.finalOffset

theorem Advances.refl (s : ReceiveStream κ) : Advances s s :=
  ⟨rfl, id, le_rfl, fun h => ⟨h, rfl, rfl⟩⟩

theorem Advances.trans {s' s'' : ReceiveStream κ} (h : Advances s s') (h' : Advances s' s'') :
    Advances s s'' where
  completed := h'.completed.trans h.completed
  cancelled hs := h'.cancelled (h.cancelled hs)
  bytesRead_le := h.bytesRead_le.trans h'.bytesRead_le
  received hs := by
    obtain ⟨h1, h2, h3⟩ := h.received hs
    obtain ⟨h1', h2', h3'⟩ := h'.received h1
    exact ⟨h1', h2'.trans h2, h3'.trans h3⟩

theorem Advances.settled {s' : ReceiveStream κ} (h : Advances s s') (hb : Balanced base s')
    (hs : s.Settled) : s'.Settled := by
  obtain ⟨hreceived, hhighest, -⟩ := h.received hs.1
  have hle := h.bytesRead_le
  have hle' := hb.bytesRead_le
  have heq := hs.2
  exact ⟨hreceived, by omega⟩

/-- What decides whether the stream is completed is the same. -/
structure SameStatus (s s' : ReceiveStream κ) : Prop extends Advances s s' where
  cancelledLocally : s'.cancelledLocally = s.cancelledLocally
  finalOffset : s'.finalOffset = s.finalOffset

theorem SameStatus.refl (s : ReceiveStream κ) : SameStatus s s := ⟨.refl s, rfl, rfl⟩

theorem SameStatus.trans {s' s'' : ReceiveStream κ} (h : SameStatus s s')
    (h' : SameStatus s' s'') : SameStatus s s'' :=
  ⟨h.toAdvances.trans h'.toAdvances, h'.cancelledLocally.trans h.cancelledLocally,
    h'.finalOffset.trans h.finalOffset⟩

theorem Balanced.sameStatus_copyFrame (h : Balanced base s) (hcancelled : s.isCancelled = false)
    (len : Nat) (progress : ReadProgress) : SameStatus s (s.copyFrame len progress).1 := by
  rw [copyFrame_eq]
  have hle : (s.rest.take (len - progress.data.length)).length ≤ s.rest.length := by
    rw [List.length_take]
    exact min_le_right _ _
  obtain ⟨-, hhighest, hfinal, hbytes⟩ := h.readFlow hcancelled hle
  have hread := h.read
  have hbytesLe := h.bytesRead_le
  refine ⟨⟨rfl, id, ?_, fun hs => ⟨hfinal.trans hs, hhighest, rfl⟩⟩, rfl, rfl⟩
  simp only [hbytes]
  split
  · exact hbytesLe
  · cases hread with
    | inl heq => omega
    | inr hsettled =>
      rw [hcancelled] at hsettled
      cases hsettled.1

theorem sameStatus_dequeueNextFrame (s : ReceiveStream κ) :
    Holds (fun _ => True) (fun s' => SameStatus s s' ∧ s'.errorRead = s.errorRead)
      s.dequeueNextFrame := by
  rw [dequeueNextFrame]
  cases s.frameQueue.pop with
  | error e => trivial
  | ok r => exact ⟨⟨⟨rfl, id, le_rfl, fun h => ⟨h, rfl, rfl⟩⟩, rfl, rfl⟩, rfl⟩

/-- What a `Read` leaves behind: the stream is balanced, and without a frame if it waits. -/
def ReadsTo (base len : Nat) (s₀ s : ReceiveStream κ) (outcome : ReadOutcome) : Prop :=
  Balanced base s ∧ SameStatus s₀ s ∧ match outcome with
    | .waits => s.currentFrame = none ∧ s.errorRead = s₀.errorRead ∧ 0 < len
    | .returned _ _ => True

/-- The stream was read to its end, and that is reported. -/
theorem Balanced.readEof (h : Balanced base s) (heof : s.atEof) : Balanced base s.readEof := by
  have hrest : s.rest = [] := List.drop_eq_nil_iff.mpr heof.1
  have hposition := h.position
  rw [hrest] at hposition
  obtain ⟨hfinal, hend⟩ := h.last heof.2
  refine { h with
    sorter := { h.sorter with }
    position := ?_
    ended := fun _ => .inr ⟨hfinal, ?_⟩ }
  · have hnil : s.readEof.rest = [] := rest_of_none rfl
    rw [hnil]
    exact hposition
  · exact hend.trans hposition.ge

/-- A `Read` is under way. -/
def Reading (base : Nat) (s₀ s : ReceiveStream κ) : Prop :=
  Balanced base s ∧ SameStatus s₀ s ∧ s.errorRead = s₀.errorRead

theorem balanced_readRule (base : Nat) (s₀ : ReceiveStream κ) (len : Nat) (deadline : Option Nat) :
    ReadRule (fun _ => True) len deadline (fun s _ => Reading base s₀ s)
      (fun s _ => Reading base s₀ s) (ReadsTo base len s₀) where
  dequeue h hrest _ := by
    have hdequeued := (h.1.dequeueNextFrame hrest).and (sameStatus_dequeueNextFrame _)
    exact hdequeued.imp fun s' hs' => ⟨hs'.1, h.2.1.trans hs'.2.1, hs'.2.2.trans h.2.2⟩
  keep h _ := h
  weaken h := h
  noMore h _ _ := ⟨h.1, h.2.1, trivial⟩
  shutdown h _ := ⟨h.1, h.2.1, trivial⟩
  cancelled h hcancelled := ⟨{ h.1 with ended := fun _ => .inl hcancelled },
    { h.2.1 with }, trivial⟩
  expired h _ := ⟨h.1, h.2.1, trivial⟩
  wait h _ hlen hnone _ := ⟨h.1, h.2.1, hnone, h.2.2, hlen⟩
  behind h _ := ⟨h.1, h.2.1, trivial⟩
  copy h _ hcancelled _ := by
    refine ⟨h.1.copyFrame hcancelled _ _, h.2.1.trans (h.1.sameStatus_copyFrame hcancelled _ _), ?_⟩
    rw [copyFrame_eq]
    exact h.2.2
  eof h _ hcancelled heof := by
    refine ⟨(h.1.copyFrame hcancelled _ _).readEof heof, ?_, trivial⟩
    exact { h.2.1.trans (h.1.sameStatus_copyFrame hcancelled _ _) with }
  full h _ _ := ⟨h.1, h.2.1, trivial⟩

/-! ## frames and cancellations -/

variable {offset : Nat} {flow : StreamFlow}

/-- An offset was received, and the final offset with it if it is known now. -/
theorem Balanced.received (h : Balanced base s) {final : Bool}
    (hflow : StreamFlow.Received s.flowController flow offset final) :
    Balanced base { s with
      flowController := flow
      finalOffset := if final then offset else s.finalOffset } := by
  have hbytes : flow.stream.bytesRead = s.flowController.stream.bytesRead := hflow.stream.bytesRead
  have hsettled : s.Settled → flow.stream.receivedFinalOffset = true ∧
      flow.stream.bytesRead = flow.stream.highestReceived := by
    intro hs
    refine ⟨by rw [hflow.receivedFinal, hs.1, Bool.true_or], ?_⟩
    rw [hbytes, hs.2, hflow.unchanged hs.1]
  -- the final offset does not change once it is known
  have hoffset : s.flowController.stream.receivedFinalOffset = true →
      flow.stream.receivedFinalOffset = true ∧
        (if final then offset else s.finalOffset) = s.finalOffset := by
    intro hknown
    refine ⟨by rw [hflow.receivedFinal, hknown, Bool.true_or], ?_⟩
    split
    · rename_i hfinal
      rw [← hflow.final hfinal, hflow.unchanged hknown, h.known hknown]
    · rfl
  constructor
  · simp only [hbytes]
    exact hflow.connection.bytesRead.trans h.credit
  · exact h.sorter.mono hflow.stream.highestReceived_le
  · exact h.position
  · intro hknown
    simp only
    split
    · exact hflow.final ‹_›
    · rename_i hfinal
      simp only [hflow.receivedFinal, hfinal, Bool.or_false] at hknown
      rw [hflow.unchanged hknown, h.known hknown]
  · intro hunknown
    simp only [hflow.receivedFinal, Bool.or_eq_false_iff] at hunknown
    simp only [hunknown.2, Bool.false_eq_true, if_false]
    exact h.unknown hunknown.1
  · simp only [hbytes]
    exact h.read.imp_right fun hs => ⟨hs.1, hsettled hs.2⟩
  · exact fun hremote => (hoffset (h.remote hremote)).1
  · exact fun heffective => hsettled (h.effective heffective)
  · intro hlast
    obtain ⟨hknown, hle⟩ := h.last hlast
    exact ⟨(hoffset hknown).1, (hoffset hknown).2.trans_le hle⟩
  · intro herror
    refine (h.ended herror).imp_right fun hended => ?_
    exact ⟨(hoffset hended.1).1, (hoffset hended.1).2.trans_le hended.2⟩

theorem Balanced.advances_received (h : Balanced base s) {final : Bool}
    (hflow : StreamFlow.Received s.flowController flow offset final) :
    Advances s { s with
      flowController := flow
      finalOffset := if final then offset else s.finalOffset } where
  completed := rfl
  cancelled := id
  bytesRead_le := hflow.stream.bytesRead.ge
  received hknown := by
    refine ⟨by rw [hflow.receivedFinal, hknown, Bool.true_or], hflow.unchanged hknown, ?_⟩
    simp only
    split
    · rename_i hfinal
      rw [← hflow.final hfinal, hflow.unchanged hknown, h.known hknown]
    · rfl

theorem Balanced.push (h : Balanced base s) {data : Bytes}
    (hle : offset + data.length ≤ s.flowController.stream.highestReceived) (doneCb : Option κ) :
    Holds (fun _ => True) (fun r => Balanced base { s with frameQueue := r.1 })
      (s.frameQueue.pushFrame data offset doneCb) := by
  refine (h.sorter.pushFrame hle doneCb).imp fun r hr => ?_
  refine { h with
    sorter := hr.1
    position := h.position.trans hr.2.symm
    last := fun hlast => ?_ }
  obtain ⟨hknown, hend⟩ := h.last hlast
  exact ⟨hknown, hend.trans hr.2.ge⟩

/-- What a frame leaves behind. -/
structure FrameTo (base : Nat) (s s' : ReceiveStream κ) : Prop where
  balanced : Balanced base s'
  advances : Advances s s'
  cancelledLocally : s'.cancelledLocally = s.cancelledLocally
  errorRead : s'.errorRead = s.errorRead
  currentFrame : s'.currentFrame = s.currentFrame

theorem Balanced.handleStreamFrameImpl (h : Balanced base s) (frame : StreamFrame)
    (putBack : Option κ) (now : Time) :
    Holds (fun _ => True) (fun r => r.1 = none → FrameTo base s r.2)
      (s.handleStreamFrameImpl frame putBack now) := by
  rw [ReceiveStream.handleStreamFrameImpl]
  cases hupdate : s.flowController.updateHighestReceived (frame.offset + frame.dataLen) frame.fin
      now with
  | mk flow err =>
    cases err with
    | some err =>
      intro hnone
      cases hnone
    | none =>
      have hflow := StreamFlow.received_updateHighestReceived hupdate
      have hreceived := h.received hflow
      have hadvances := h.advances_received hflow
      simp only
      split
      · exact fun _ => ⟨hreceived, hadvances, rfl, rfl, rfl⟩
      · refine (hreceived.push hflow.le_highest putBack).bind fun r hr => ?_
        split
        · intro hnone
          cases hnone
        · exact fun _ => ⟨{ hr with }, { hadvances with }, rfl, rfl, rfl⟩

section Reset

variable (reliableSize : Nat) (remotely : Bool) (err : Option StreamError) (signal : Bool)

/-- Giving up what was not read, once the stream is cancelled. -/
theorem Balanced.abandon (h : Balanced base s)
    (hfinal : s.flowController.stream.receivedFinalOffset = true)
    (hcancelled : isCancelled
      { s with reliableSize := reliableSize, cancelledRemotely := remotely } = true) :
    Balanced base { s with
        flowController := s.flowController.abandon
        reliableSize := reliableSize
        cancelledRemotely := remotely
        cancelErr := err
        readSignal := signal } ∧
      s.flowController.abandon.stream.receivedFinalOffset = true ∧
      s.flowController.abandon.stream.bytesRead = s.flowController.abandon.stream.highestReceived := by
  have hle := h.bytesRead_le
  have hcredit := h.credit
  have hsettled : s.flowController.abandon.stream.receivedFinalOffset = true ∧
      s.flowController.abandon.stream.bytesRead =
        s.flowController.abandon.stream.highestReceived := by
    simp only [StreamFlow.abandon_stream]
    exact ⟨hfinal, trivial⟩
  refine ⟨?_, hsettled⟩
  constructor
  · simp only [StreamFlow.abandon_stream, StreamFlow.abandon_connection]
    omega
  · simp only [StreamFlow.abandon_stream]
    exact h.sorter
  · exact h.position
  · simp only [StreamFlow.abandon_stream]
    exact h.known
  · simp only [StreamFlow.abandon_stream]
    exact h.unknown
  · exact .inr ⟨hcancelled, hsettled⟩
  · exact fun _ => hsettled.1
  · exact fun _ => hsettled
  · simp only [StreamFlow.abandon_stream]
    exact h.last
  · exact fun _ => .inl hcancelled

/-- The peer promises more than was read. -/
theorem Balanced.promise (h : Balanced base s)
    (hfinal : s.flowController.stream.receivedFinalOffset = true)
    (hnot : s.isRemoteCancellationEffective = false) (hlt : s.readPos < reliableSize) :
    Balanced base { s with
      reliableSize := reliableSize
      cancelledRemotely := remotely
      cancelErr := err
      readSignal := signal } := by
  -- only a local cancellation was effective, and it still is
  have hcancelled : s.isCancelled = true → isCancelled
      { s with reliableSize := reliableSize, cancelledRemotely := remotely } = true := by
    intro hs
    simp only [isCancelled, hnot, Bool.or_false] at hs
    simp [isCancelled, hs]
  refine { h with
    read := h.read.imp_right fun hs => ⟨hcancelled hs.1, hs.2⟩
    remote := fun _ => hfinal
    effective := fun heffective => ?_
    ended := fun herror => (h.ended herror).imp_left hcancelled }
  simp only [isRemoteCancellationEffective, Bool.and_eq_true, decide_eq_true_eq] at heffective
  omega

/-- The stream after a final size and a reliable size were received. -/
def resetTo (s : ReceiveStream κ) (flow : StreamFlow) (finalSize : Nat) : ReceiveStream κ :=
  { s with
    finalOffset := finalSize
    reliableSize := reliableSize
    flowController := if s.readPos ≥ reliableSize then flow.abandon else flow
    cancelledRemotely := remotely
    cancelErr := err
    readSignal := signal }

/-- The flow controller is abandoned, if the reliable size was read. -/
theorem Balanced.resetTo (h : Balanced base s) {finalSize : Nat}
    (hflow : StreamFlow.Received s.flowController flow finalSize true)
    (hsize : s.cancelledRemotely = true → reliableSize ≤ s.reliableSize)
    (hremotely : remotely = true ∨ s.cancelledLocally = true) :
    FrameTo base s (s.resetTo reliableSize remotely err signal flow finalSize) ∧
      (reliableSize ≤ s.readPos →
        (s.resetTo reliableSize remotely err signal flow finalSize).Settled) := by
  have hreceived := h.received hflow
  have hadvances := h.advances_received hflow
  have hfinal : flow.stream.receivedFinalOffset = true := by
    rw [hflow.receivedFinal, Bool.or_true]
  rw [ReceiveStream.resetTo]
  by_cases hread : s.readPos ≥ reliableSize
  · have habandon := hreceived.abandon reliableSize remotely err signal hfinal (by
      simp only [isCancelled, isRemoteCancellationEffective]
      cases hremotely with
      | inl hr => simp [hr, hread]
      | inr hl => simp [hl])
    simp only [if_pos hread]
    refine ⟨⟨habandon.1, ?_, rfl, rfl, rfl⟩, fun _ => habandon.2⟩
    refine { hadvances with bytesRead_le := ?_, received := fun hs => ?_ }
    · simp only [StreamFlow.abandon_stream]
      exact hadvances.bytesRead_le.trans hreceived.bytesRead_le
    · simp only [StreamFlow.abandon_stream]
      exact hadvances.received hs
  · have hnot : s.isRemoteCancellationEffective = false := by
      cases hr : s.cancelledRemotely with
      | false => simp [isRemoteCancellationEffective, hr]
      | true =>
        have hle := hsize hr
        simp only [isRemoteCancellationEffective, hr, Bool.true_and, decide_eq_false_iff_not]
        omega
    simp only [if_neg hread]
    have hpromise := hreceived.promise reliableSize remotely err signal hfinal hnot
      (not_le.mp hread)
    exact ⟨⟨hpromise, { hadvances with }, rfl, rfl, rfl⟩, fun hle => absurd hle hread⟩

end Reset

variable {s' : ReceiveStream κ}

section

variable (h : Balanced base s)

include h

theorem Balanced.handleResetStreamFrameImpl {frame : ResetStreamFrame}
    {now : Time} (hok : s.handleResetStreamFrameImpl frame now = (none, s')) :
    FrameTo base s s' ∧ (s' = s ∨ (frame.reliableSize ≤ s.readPos → s'.Settled)) := by
  rw [ReceiveStream.handleResetStreamFrameImpl] at hok
  split at hok
  · obtain ⟨-, rfl⟩ := Prod.mk.inj hok
    exact ⟨⟨h, .refl s, rfl, rfl, rfl⟩, .inl rfl⟩
  cases hupdate : s.flowController.updateHighestReceived frame.finalSize true now with
  | mk flow err =>
    rw [hupdate] at hok
    cases err with
    | some err => cases (Prod.mk.inj hok).1
    | none =>
      have hflow := StreamFlow.received_updateHighestReceived hupdate
      simp only at hok
      generalize hsize : (if s.cancelledRemotely = false ∧ s.reliableSize = 0 ∨
        frame.reliableSize < s.reliableSize then frame.reliableSize
        else s.reliableSize) = size at hok
      have hle : s.cancelledRemotely = true → size ≤ s.reliableSize := by
        intro hr
        rw [hr] at hsize
        rw [← hsize]
        split
        · simp_all
          omega
        · exact le_rfl
      have hframe : frame.reliableSize ≤ s.readPos → size ≤ s.readPos := by
        intro hle'
        rw [← hsize]
        split <;> omega
      -- the error is that of the first cancellation
      split at hok
      · rename_i hr
        obtain ⟨-, rfl⟩ := Prod.mk.inj hok
        have hto := h.resetTo size s.cancelledRemotely s.cancelErr s.readSignal hflow hle (.inl hr)
        exact ⟨hto.1, .inr fun hle' => hto.2 (hframe hle')⟩
      split at hok
      · rename_i hl
        obtain ⟨-, rfl⟩ := Prod.mk.inj hok
        have hto := h.resetTo size s.cancelledRemotely s.cancelErr s.readSignal hflow hle (.inr hl)
        exact ⟨hto.1, .inr fun hle' => hto.2 (hframe hle')⟩
      · obtain ⟨-, rfl⟩ := Prod.mk.inj hok
        have hto := h.resetTo size true (some
          { streamID := s.streamID, errorCode := frame.errorCode, remote := true }) true
          hflow hle (.inl rfl)
        exact ⟨hto.1, .inr fun hle' => hto.2 (hframe hle')⟩

theorem Balanced.cancelReadImpl (errorCode : Nat) :
    Balanced base (s.cancelReadImpl errorCode).2 ∧ Advances s (s.cancelReadImpl errorCode).2 ∧
      (s.cancelReadImpl errorCode).2.currentFrame = s.currentFrame ∧
      ((s.cancelReadImpl errorCode).2 = s ∨
        (s.cancelReadImpl errorCode).2.cancelledLocally = true) := by
  have hlocal : Balanced base { s with cancelledLocally := true } :=
    { h with
      read := h.read.imp_right fun hs => ⟨rfl, hs.2⟩
      ended := fun _ => .inl rfl }
  rw [ReceiveStream.cancelReadImpl]
  split
  · exact ⟨h, .refl s, rfl, .inl rfl⟩
  split
  · exact ⟨h, .refl s, rfl, .inl rfl⟩
  simp only
  split
  · exact ⟨hlocal, ⟨rfl, fun _ => rfl, le_rfl, fun hs => ⟨hs, rfl, rfl⟩⟩, rfl, .inr rfl⟩
  · exact ⟨{ hlocal with }, ⟨rfl, fun _ => rfl, le_rfl, fun hs => ⟨hs, rfl, rfl⟩⟩, rfl, .inr rfl⟩

theorem Balanced.getControlFrame (now : Time) (rtt : Duration) (allowed allowed' : Bool) :
    Balanced base (s.getControlFrame now rtt allowed allowed').2 ∧
      SameStatus s (s.getControlFrame now rtt allowed allowed').2 ∧
      (s.getControlFrame now rtt allowed allowed').2.errorRead = s.errorRead ∧
      (s.getControlFrame now rtt allowed allowed').2.currentFrame = s.currentFrame := by
  rw [ReceiveStream.getControlFrame]
  split
  · exact ⟨h, .refl s, rfl, rfl⟩
  split
  · exact ⟨{ h with }, ⟨⟨rfl, id, le_rfl, fun hs => ⟨hs, rfl, rfl⟩⟩, rfl, rfl⟩, rfl, rfl⟩
  simp only
  generalize hflow : (s.flowController.getWindowUpdate now rtt allowed allowed').2 = flow
  obtain ⟨hstream, hconnection, hfinal⟩ :=
    s.flowController.tuned_getWindowUpdate now rtt allowed allowed'
  rw [hflow] at hstream hconnection hfinal
  have hread := hstream.bytesRead
  have hhighest := hstream.highestReceived
  refine ⟨?_, ⟨⟨rfl, id, hread.ge, fun hs => ⟨hfinal.trans hs, hhighest, rfl⟩⟩, rfl, rfl⟩,
    trivial, trivial⟩
  constructor
  · simp only [hread]
    exact hconnection.bytesRead.trans h.credit
  · simp only [hhighest]
    exact h.sorter
  · exact h.position
  · simp only [hfinal, hhighest]
    exact h.known
  · simp only [hfinal]
    exact h.unknown
  · simp only [hread, Settled, hfinal, hhighest]
    exact h.read
  · simp only [hfinal]
    exact h.remote
  · simp only [Settled, hfinal, hread, hhighest]
    exact h.effective
  · simp only [hfinal]
    exact h.last
  · simp only [Ended, hfinal]
    exact h.ended

/-! ## peeking -/

/-- A `Peek` dequeues frames, and nothing else. -/
theorem Balanced.nextFrame :
    Holds (fun _ => True) (fun s' => Balanced base s' ∧ SameStatus s s' ∧
      s'.errorRead = s.errorRead) s.nextFrame := by
  rw [ReceiveStream.nextFrame]
  split
  · rename_i hneeds
    exact ((h.dequeueNextFrame (needsFrame_iff.mp hneeds)).and (sameStatus_dequeueNextFrame s)).imp
      fun _ hs' => ⟨hs'.1, hs'.2.1, hs'.2.2⟩
  · exact ⟨h, .refl s, rfl⟩

theorem Balanced.peekRound (len : Nat) (expired : Bool) :
    Holds (fun _ => True) (fun r => Balanced base r.1 ∧ SameStatus s r.1 ∧
      r.1.errorRead = s.errorRead) (s.peekRound len expired) := by
  rw [ReceiveStream.peekRound]
  split
  · exact ⟨h, .refl s, rfl⟩
  split
  · exact ⟨h, .refl s, rfl⟩
  split
  · exact ⟨h, .refl s, rfl⟩
  split
  · exact ⟨h, .refl s, rfl⟩
  refine h.nextFrame.bind fun s' hs' => ?_
  split
  · exact hs'
  · split
    · exact hs'
    · exact hs'

theorem Balanced.wakePeek (len : Nat) (expired : Bool) :
    Holds (fun _ => True) (fun r => Balanced base r.1 ∧ SameStatus s r.1 ∧
      r.1.errorRead = s.errorRead) (s.wakePeek len expired) := by
  rw [ReceiveStream.wakePeek]
  refine h.nextFrame.bind fun s' ⟨hbalanced, hsame, herror⟩ => ?_
  exact (hbalanced.peekRound len expired).imp fun r hr =>
    ⟨hr.1, hsame.trans hr.2.1, hr.2.2.trans herror⟩

end

/-! ## completion -/

/-- The stream is not completed anew. -/
def NotDue (s : ReceiveStream κ) : Prop :=
  s.completed = true ∨ s.finalOffset = MaxByteCount ∨
    s.cancelledLocally = false ∧ s.errorRead = false

theorem notDue_isNewlyCompleted (s : ReceiveStream κ) : s.isNewlyCompleted.2.NotDue := by
  rw [isNewlyCompleted]
  split
  · exact .inl ‹_›
  split
  · exact .inr (.inl ‹_›)
  split
  · exact .inl rfl
  split
  · exact .inl rfl
  · rename_i hlocal herror
    exact .inr (.inr ⟨by simpa using hlocal, by simpa using herror⟩)

theorem SameStatus.notDue (h : SameStatus s s') (herror : s'.errorRead = s.errorRead)
    (hs : s.NotDue) : s'.NotDue := by
  rw [NotDue, h.completed, h.finalOffset, h.cancelledLocally, herror]
  exact hs

theorem NotDue.absurd (h : s.NotDue) (hcompleted : s.completed = false)
    (hfinal : s.finalOffset ≠ MaxByteCount)
    (hwhy : s.cancelledLocally = true ∨ s.errorRead = true) : False := by
  simp_all [NotDue]

/-- The end of the stream was found before. -/
theorem Balanced.readLast (h : Balanced base s) (hlast : s.currentFrameIsLast = true)
    (hnone : s.currentFrame = none) : Balanced base { s with errorRead := true } := by
  have hposition := h.position
  rw [rest_of_none hnone] at hposition
  obtain ⟨hfinal, hend⟩ := h.last hlast
  exact { h with ended := fun _ => .inr ⟨hfinal, hend.trans hposition.ge⟩ }

/-- A `Read` completes a stream whose credit is returned. -/
theorem Balanced.settled_of_read (h : Balanced base s') (hsame : SameStatus s s')
    (hdue : s.NotDue) (hcompleted : s'.completed = false) (hfinal : s'.finalOffset ≠ MaxByteCount)
    (hwhy : s'.cancelledLocally = true ∨ s'.errorRead = true) : s'.Settled := by
  -- after a local cancellation the stream was completed as soon as its final offset was known
  have hlocal : s'.cancelledLocally ≠ true := fun hlocal =>
    hdue.absurd (hsame.completed ▸ hcompleted) (hsame.finalOffset ▸ hfinal)
      (.inl (hsame.cancelledLocally ▸ hlocal))
  cases h.ended (hwhy.resolve_left hlocal) with
  | inl hcancelled =>
    rw [isCancelled, Bool.or_eq_true] at hcancelled
    exact h.effective (hcancelled.resolve_left hlocal)
  | inr hended => exact h.settled_of_ended hended

/-- Only `CancelRead` lets a frame complete the stream. -/
theorem Balanced.cancelled_of_errorRead (h : Balanced base s) (hdue : s.NotDue)
    (hadvances : Advances s s') (hcompleted : s.completed = false)
    (hfinal : s'.finalOffset ≠ MaxByteCount) (herror : s.errorRead = true) :
    s.cancelledLocally = true := by
  have hmax : s.finalOffset = MaxByteCount := by
    obtain hc | hmax | hnone := hdue
    · rw [hcompleted] at hc
      cases hc
    · exact hmax
    · rw [herror] at hnone
      cases hnone.2
  -- otherwise the final offset was known, and it still is the same
  by_contra hlocal
  have hknown : s.flowController.stream.receivedFinalOffset = true := by
    cases h.ended herror with
    | inl hcancelled =>
      simp only [isCancelled, Bool.or_eq_true, hlocal, false_or] at hcancelled
      exact (h.effective hcancelled).1
    | inr hended => exact hended.1
  exact hfinal ((hadvances.received hknown).2.2.trans hmax)

end ReceiveStream

end MoqQuic.Quic
