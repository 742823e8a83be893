import MoqQuic.Quic.SendStream.FinalSize

/-!
# MoqQuic.Quic.SendStream.Unreliable

A send stream whose peer does not support RESET_STREAM_AT.

Such a stream never emits a reset with a reliable size, and what it does emit does not depend on
where `SetReliableBoundary` put the boundary: a step of the stream with its boundary forgotten is the
step of the stream, with the boundary forgotten afterwards.
-/

namespace MoqQuic.Quic

open Parse Outcome Machine

namespace SendStream

variable {s : SendStream}

/-- The stream without its boundary. -/
def forget (s : SendStream) : SendStream := { s with reliableSize := 0 }

/-- What `popStreamFrame` gives, without the boundary of the stream. -/
def Popped.forget (popped : Popped) : Popped := { popped with stream := popped.stream.forget }

theorem reliableOffset_of_not_supports (h : s.supportsResetStreamAt = false) :
    s.reliableOffset = 0 := by
  rw [reliableOffset, if_neg (by simp [h])]

theorem reliableOffset_forget (h : s.supportsResetStreamAt = false) :
    s.forget.reliableOffset = s.reliableOffset := by
  rw [reliableOffset_of_not_supports h, reliableOffset_of_not_supports (s := s.forget) h]

@[simp] theorem forget_resetErr (s : SendStream) : s.forget.resetErr = s.resetErr := rfl

@[simp] theorem forget_flowController (s : SendStream) :
    s.forget.flowController = s.flowController := rfl

/-! ## writing -/

theorem isNewlyCompleted_forget (s : SendStream) :
    s.forget.isNewlyCompleted = s.isNewlyCompleted.map id forget := by
  simp only [isNewlyCompleted, apply_ite (Prod.map id forget)]
  rfl

theorem flagReset_forget (s : SendStream) (n : Nat) (err : StreamError) :
    s.forget.flagReset n err = (s.flagReset n err).map forget id := by
  have h := isNewlyCompleted_forget { s with cancellationFlagged := true }
  simp only [flagReset]
  exact congrArg (fun p : Bool × SendStream =>
    (p.2, WriteOutcome.returned n (some (.reset err)) p.1)) h

theorem bufferData_forget (s : SendStream) : s.forget.bufferData = s.bufferData.forget := by
  cases hnext : s.nextFrame <;> simp only [bufferData, forget, hnext]

theorem finishWrite_forget (s : SendStream) (len n : Nat) :
    s.forget.finishWrite len n = (s.finishWrite len n).map forget id := by
  have hsame : s.forget.resetErr = s.resetErr := rfl
  cases hreset : s.resetErr with
  | none =>
    simp only [finishWrite, hsame, hreset, apply_ite (Prod.map forget id)]
    rfl
  | some err =>
    simp only [finishWrite, hsame, hreset, apply_ite (Prod.map forget id), flagReset_forget]
    rfl

theorem writeRound_forget (s : SendStream) (len : Nat) (expired : Bool) :
    s.forget.writeRound len expired = (s.writeRound len expired).map forget id := by
  simp only [writeRound, apply_ite (Prod.map forget id), bufferData_forget, finishWrite_forget]
  rfl

theorem write_forget (s : SendStream) (p : Bytes) (expired expired' : Bool) :
    s.forget.write p expired expired' = (s.write p expired expired').map forget id := by
  have hsame : s.forget.resetErr = s.resetErr := rfl
  cases hreset : s.resetErr with
  | none =>
    simp only [write, hsame, hreset, apply_ite (Prod.map forget id), ← writeRound_forget]
    rfl
  | some err =>
    simp only [write, hsame, hreset, flagReset_forget]

/-! ## popping -/

theorem maybeGetRetransmission_forget (s : SendStream) (f : StreamFrame) (rest : List StreamFrame)
    (maxBytes : Int) : s.forget.maybeGetRetransmission f rest maxBytes =
      (s.maybeGetRetransmission f rest maxBytes).map (Prod.map forget id) := by
  unfold maybeGetRetransmission
  cases f.maybeSplitOffFrame maxBytes with
  | error e => rfl
  | ok r =>
    obtain ⟨f', newFrame, needsSplit⟩ := r
    cases needsSplit <;> rfl

/-- Only the queue changes. -/
theorem maybeGetRetransmission_same {f : StreamFrame} {rest : List StreamFrame} {maxBytes : Int}
    {s' : SendStream} {r : Option StreamFrame × Bool}
    (h : s.maybeGetRetransmission f rest maxBytes = .ok (s', r)) :
    ∃ queue, s' = { s with retransmissionQueue := queue } := by
  unfold maybeGetRetransmission at h
  obtain ⟨split, hsplit, h⟩ := Outcome.bind_eq_ok.mp h
  obtain ⟨f', newFrame, needsSplit⟩ := split
  cases needsSplit with
  | true | false =>
    cases h
    exact ⟨_, rfl⟩

theorem getDataForWriting_forget (s : SendStream) (f : StreamFrame) (maxBytes : Nat) :
    s.forget.getDataForWriting f maxBytes =
      (s.getDataForWriting f maxBytes).map (Prod.map forget id) := by
  unfold getDataForWriting
  refine ite_map rfl (ite_map rfl ?_)
  simp only [Except.map, Prod.map, apply_ite forget]
  rfl

theorem popNewStreamFrameWithoutBuffer_forget (s : SendStream) (f : StreamFrame) (maxBytes : Int)
    (sendWindow : Nat) : s.forget.popNewStreamFrameWithoutBuffer f maxBytes sendWindow =
      (s.popNewStreamFrameWithoutBuffer f maxBytes sendWindow).map (Prod.map forget id) := by
  unfold popNewStreamFrameWithoutBuffer
  cases f.maxDataLen maxBytes with
  | error e => rfl
  | ok maxDataLen =>
    by_cases hzero : maxDataLen = 0
    · simp only [hzero]
      rfl
    · have h := getDataForWriting_forget s f (min maxDataLen sendWindow)
      simp only [bind, Except.bind, hzero, if_false] at *
      rw [h]
      cases s.getDataForWriting f (min maxDataLen sendWindow) <;> rfl

theorem popNextFrame_forget (s : SendStream) (f : StreamFrame) (maxDataLen : Nat) :
    s.forget.popNextFrame f maxDataLen = (s.popNextFrame f maxDataLen).map forget id := by
  simp only [popNextFrame, apply_ite (Prod.map forget id)]
  rfl

theorem popNewStreamFrame_forget (s : SendStream) (maxBytes : Int) (maxDataLen : Nat) :
    s.forget.popNewStreamFrame maxBytes maxDataLen =
      (s.popNewStreamFrame maxBytes maxDataLen).map (Prod.map forget id) := by
  cases hnext : s.nextFrame with
  | some f =>
    simp only [popNewStreamFrame, hnext, show s.forget.nextFrame = some f from hnext]
    cases f.maxDataLen maxBytes with
    | error e => rfl
    | ok n => exact congrArg Except.ok (popNextFrame_forget s f (min maxDataLen n))
  | none =>
    have h := popNewStreamFrameWithoutBuffer_forget s
      { streamID := s.streamID, offset := s.writeOffset } maxBytes maxDataLen
    simp only [popNewStreamFrame, hnext, show s.forget.nextFrame = none from hnext]
    refine (congrArg (· >>= _) h).trans ?_
    cases s.popNewStreamFrameWithoutBuffer
      { streamID := s.streamID, offset := s.writeOffset } maxBytes maxDataLen <;> rfl

section

variable (h : s.supportsResetStreamAt = false)
include h

theorem accountNew_forget (f : StreamFrame) (maxDataLen : Nat) (hasMoreData : Bool) :
    s.forget.accountNew f maxDataLen hasMoreData = (s.accountNew f maxDataLen hasMoreData).forget := by
  have hsupports : s.forget.supportsResetStreamAt = false := h
  by_cases hdata : f.dataLen > 0
  · simp only [accountNew, reliableOffset, if_pos hdata, h, hsupports]
    split <;> rfl
  · simp only [accountNew, reliableOffset, if_neg hdata, h, hsupports]
    split <;> rfl

theorem popUnsent_forget (hb : s.Buffered)
    (maxBytes : Int) : s.forget.popUnsent maxBytes = (s.popUnsent maxBytes).map Popped.forget := by
  have hoffset := reliableOffset_of_not_supports h
  have hoffset' := reliableOffset_of_not_supports (s := s.forget) h
  unfold popUnsent
  simp only [forget_flowController, hoffset, hoffset', gt_iff_lt, lt_irrefl, and_false, if_false]
  by_cases hempty : s.dataForWriting = [] ∧ s.nextFrame = none
  · have hempty' : s.forget.dataForWriting = [] ∧ s.forget.nextFrame = none := hempty
    rw [if_pos hempty', if_pos hempty]
    exact ite_map rfl rfl
  · have hempty' : ¬ (s.forget.dataForWriting = [] ∧ s.forget.nextFrame = none) := hempty
    rw [if_neg hempty', if_neg hempty]
    by_cases hzero : s.flowController.sendWindowSize = 0
    · rw [if_pos hzero, if_pos hzero]
      rfl
    · have htakes := takes_popNewStreamFrame maxBytes hb hempty
        (Nat.pos_of_ne_zero hzero)
      rw [if_neg hzero, if_neg hzero, popNewStreamFrame_forget]
      cases hpop : s.popNewStreamFrame maxBytes s.flowController.sendWindowSize with
      | error e => rfl
      | ok r =>
        obtain ⟨s', f, hasMoreData⟩ := r
        cases f with
        | none => rfl
        | some f =>
          obtain ⟨hnone, -⟩ | ⟨f', hf, htake⟩ := htakes.of_ok hpop
          · cases hnone
          · have hs' : s'.supportsResetStreamAt = false := by
              obtain ⟨nextFrame, dataForWriting, writeSignal, hsame⟩ := htake.same
              dsimp only at hsame
              rw [hsame]
              exact h
            exact congrArg Except.ok (accountNew_forget hs' f _ _)

theorem stopped_forget : s.forget.stopped = s.stopped := by
  simp only [stopped, reliableOffset_of_not_supports h,
    reliableOffset_of_not_supports (s := s.forget) h]
  rfl

theorem popNewOrRetransmittedStreamFrame_forget (hb : s.Buffered) (maxBytes : Int) :
    s.forget.popNewOrRetransmittedStreamFrame maxBytes =
      (s.popNewOrRetransmittedStreamFrame maxBytes).map Popped.forget := by
  have hqueue : s.forget.retransmissionQueue = s.retransmissionQueue := rfl
  unfold popNewOrRetransmittedStreamFrame
  rw [stopped_forget h, hqueue]
  refine ite_map rfl ?_
  cases s.retransmissionQueue with
  | nil => exact popUnsent_forget h hb maxBytes
  | cons f rest =>
    simp only [maybeGetRetransmission_forget]
    cases hget : s.maybeGetRetransmission f rest maxBytes with
    | error e => rfl
    | ok r =>
      obtain ⟨s', f', more⟩ := r
      obtain ⟨queue, rfl⟩ := maybeGetRetransmission_same hget
      exact ite_map rfl (popUnsent_forget (s := { s with retransmissionQueue := queue }) h hb _)

theorem popStreamFrame_forget (hb : s.Buffered) (maxBytes : Int) :
    s.forget.popStreamFrame maxBytes = (s.popStreamFrame maxBytes).map Popped.forget := by
  unfold popStreamFrame
  rw [popNewOrRetransmittedStreamFrame_forget h hb]
  exact bind_map fun popped => ite_map rfl rfl

end

/-! ## the other calls -/

theorem close_forget (s : SendStream) : s.forget.close = s.close.map id forget := by
  simp only [close, apply_ite (Prod.map id forget), ← isNewlyCompleted_forget]
  rfl

theorem cancelWrite_forget (h : s.supportsResetStreamAt = false) (errorCode : Nat) :
    s.forget.cancelWrite errorCode = (s.cancelWrite errorCode).map id forget := by
  have hreset : ({ s.forget with cancellationFlagged := true } : SendStream).resetLocally errorCode =
      (({ s with cancellationFlagged := true } : SendStream).resetLocally errorCode).forget := by
    have hoffset : ({ s with cancellationFlagged := true } : SendStream).reliableOffset = 0 :=
      reliableOffset_of_not_supports h
    have hoffset' : ({ s.forget with cancellationFlagged := true } : SendStream).reliableOffset = 0 :=
      reliableOffset_of_not_supports h
    rw [resetLocally_eq, resetLocally_eq, afterReset, afterReset, hoffset, hoffset']
    rfl
  simp only [cancelWrite, apply_ite (Prod.map id forget), ← isNewlyCompleted_forget, hreset]
  rfl

theorem closeForShutdown_forget (s : SendStream) :
    s.forget.closeForShutdown = s.closeForShutdown.forget := by
  simp only [closeForShutdown, apply_ite forget]
  rfl

theorem handleStopSendingFrame_forget (h : s.supportsResetStreamAt = false) (errorCode : Nat) :
    s.forget.handleStopSendingFrame errorCode = (s.handleStopSendingFrame errorCode).forget := by
  simp only [handleStopSendingFrame, reliableOffset_of_not_supports h,
    reliableOffset_of_not_supports (s := s.forget) h, apply_ite forget]
  rfl

theorem getControlFrame_forget (s : SendStream) :
    s.forget.getControlFrame = s.getControlFrame.map id forget := by
  have hsame : s.forget.queuedResetStreamFrame = s.queuedResetStreamFrame := rfl
  simp only [getControlFrame, hsame]
  cases s.queuedResetStreamFrame <;> rfl

theorem abandoned_forget (h : s.supportsResetStreamAt = false) :
    s.forget.abandoned = s.abandoned := by
  simp only [abandoned, reliableOffset_of_not_supports h,
    reliableOffset_of_not_supports (s := s.forget) h]
  rfl

theorem settleFrame_forget (s : SendStream) : s.forget.settleFrame = s.settleFrame.map forget := by
  simp only [settleFrame, apply_ite (Except.map forget)]
  rfl

theorem onAcked_forget (h : s.supportsResetStreamAt = false) :
    s.forget.onAcked = s.onAcked.map (Prod.map id forget) := by
  unfold onAcked
  rw [abandoned_forget h, settleFrame_forget]
  exact ite_map rfl (bind_map fun s' => congrArg Except.ok (isNewlyCompleted_forget s'))

theorem onLost_forget (h : s.supportsResetStreamAt = false) (sf : StreamFrame) :
    s.forget.onLost sf = (s.onLost sf).map (Prod.map id forget) := by
  unfold onLost
  rw [abandoned_forget h, settleFrame_forget]
  by_cases habandoned : s.abandoned
  · rw [if_pos habandoned, if_pos habandoned]
    rfl
  · -- a stream without a boundary is abandoned once it is reset
    have hreset : s.resetErr.isSome = false := by
      simpa [abandoned, reliableOffset_of_not_supports h] using habandoned
    rw [if_neg habandoned, if_neg habandoned]
    simp only [settleFrame]
    split
    · rfl
    · simp only [Except.map, bind, Except.bind, forget_resetErr, hreset]
      rfl

theorem onResetAcked_forget (h : s.supportsResetStreamAt = false) (rsf : ResetStreamFrame) :
    s.forget.onResetAcked rsf = (s.onResetAcked rsf).map (Prod.map id forget) := by
  unfold onResetAcked
  rw [reliableOffset_forget h, settleFrame_forget]
  exact ite_map rfl (bind_map fun s' => congrArg Except.ok (isNewlyCompleted_forget s'))

theorem onResetLost_forget (h : s.supportsResetStreamAt = false) (rsf : ResetStreamFrame) :
    s.forget.onResetLost rsf = (s.onResetLost rsf).forget := by
  simp only [onResetLost, reliableOffset_forget h, apply_ite forget]
  rfl

end SendStream

namespace SendLink

variable {l l' : SendLink}

/-- The link without the boundary of its stream. -/
def forget (l : SendLink) : SendLink := { l with stream := l.stream.forget }

theorem report_forget (l : SendLink) (completed : Bool) :
    l.forget.report completed = (l.report completed).forget := by
  cases completed <;> rfl

theorem afterWrite_forget (l : SendLink) (len rest : Nat)
    (result : SendStream × SendStream.WriteOutcome) :
    l.forget.afterWrite len rest (result.map SendStream.forget id) =
      (l.afterWrite len rest result).forget := by
  obtain ⟨stream, outcome⟩ := result
  cases outcome with
  | returned n err completed =>
    exact report_forget { l with
      stream := stream
      writing := none
      written := if err = some WriteError.deadline then l.written.take (l.written.length - rest)
        else l.written } completed
  | waits => rfl

theorem write_forget (l : SendLink) (p : Bytes) (expired expired' : Bool) :
    l.forget.write p expired expired' = (l.write p expired expired').forget := by
  have hwrite := SendStream.write_forget l.stream p expired expired'
  have hstream : l.forget.stream = l.stream.forget := rfl
  simp only [write, hstream, hwrite, apply_ite forget, ← afterWrite_forget]
  rfl

theorem wake_forget (l : SendLink) (timer expired : Bool) :
    l.forget.wake timer expired = (l.wake timer expired).forget := by
  have hstream : l.forget.stream = l.stream.forget := rfl
  have hwriting : l.forget.writing = l.writing := rfl
  unfold wake
  rw [hwriting]
  cases l.writing with
  | none => rfl
  | some len =>
    have hround (s : SendStream) := SendStream.writeRound_forget s len expired
    cases timer with
    | true =>
      simp only [or_true, if_true, hstream, hround, afterWrite_forget]
      rfl
    | false =>
      simp only [apply_ite forget, ← afterWrite_forget, ← hround]
      rfl

theorem emit_forget (l : SendLink) (popped : SendStream.Popped) :
    l.forget.emit popped.forget = (l.emit popped).forget := by
  have hframe : popped.forget.frame = popped.frame := rfl
  simp only [emit, hframe]
  cases popped.frame <;> rfl

/-- **The boundary has no effect** on a stream whose peer does not support RESET_STREAM_AT. -/
theorem step_forget (h : l.stream.supportsResetStreamAt = false) (hb : l.stream.Buffered) {op : Op}
    (hop : op ≠ .setReliableBoundary) (henable : op ≠ .enableResetStreamAt) :
    l.forget.step op = (l.step op).map forget := by
  have hstream : l.forget.stream = l.stream.forget := rfl
  have hframes : l.forget.inFlight = l.inFlight := rfl
  have hresets : l.forget.resetsInFlight = l.resetsInFlight := rfl
  cases op with
  | write p expired expired' => exact congrArg Except.ok (write_forget l p expired expired')
  | wake timer expired => exact congrArg Except.ok (wake_forget l timer expired)
  | close =>
    simp only [step, hstream, SendStream.close_forget]
    exact congrArg Except.ok (report_forget { l with stream := l.stream.close.2 } _)
  | setReliableBoundary => exact absurd rfl hop
  | cancelWrite errorCode =>
    simp only [step, hstream, SendStream.cancelWrite_forget h]
    exact congrArg Except.ok
      (report_forget { l with stream := (l.stream.cancelWrite errorCode).2 } _)
  | enableResetStreamAt => exact absurd rfl henable
  | closeForShutdown =>
    simp only [step, hstream, SendStream.closeForShutdown_forget]
    rfl
  | updateSendWindow | updateConnectionWindow | othersSend => rfl
  | handleStopSendingFrame errorCode =>
    simp only [step, hstream, SendStream.handleStopSendingFrame_forget h]
    rfl
  | popStreamFrame maxBytes =>
    simp only [step, hstream, SendStream.popStreamFrame_forget h hb]
    cases l.stream.popStreamFrame maxBytes with
    | error e => rfl
    | ok popped => exact congrArg Except.ok (emit_forget l popped)
  | getControlFrame =>
    simp only [step, hstream, SendStream.getControlFrame_forget]
    obtain ⟨f, stream⟩ := l.stream.getControlFrame
    cases f <;> rfl
  | ackFrame i =>
    simp only [step, hstream, hframes, SendStream.onAcked_forget h]
    cases l.inFlight[i]? with
    | none => rfl
    | some f =>
      cases l.stream.onAcked with
      | error e => rfl
      | ok r =>
        exact congrArg Except.ok (report_forget { l with
          stream := r.2
          inFlight := l.inFlight.eraseIdx i
          acked := l.acked ++ [f] } r.1)
  | loseFrame i =>
    simp only [step, hstream, hframes, SendStream.onLost_forget h]
    cases l.inFlight[i]? with
    | none => rfl
    | some f =>
      dsimp only
      cases l.stream.onLost f with
      | error e => rfl
      | ok r =>
        exact congrArg Except.ok (report_forget { l with
          stream := r.2
          inFlight := l.inFlight.eraseIdx i } r.1)
  | ackReset i =>
    simp only [step, hstream, hresets, SendStream.onResetAcked_forget h]
    cases l.resetsInFlight[i]? with
    | none => rfl
    | some f =>
      dsimp only
      cases l.stream.onResetAcked f with
      | error e => rfl
      | ok r =>
        exact congrArg Except.ok (report_forget { l with
          stream := r.2
          resetsInFlight := l.resetsInFlight.eraseIdx i
          ackedResets := l.ackedResets ++ [f] } r.1)
  | loseReset i =>
    simp only [step, hstream, hresets, SendStream.onResetLost_forget h]
    cases l.resetsInFlight[i]? <;> rfl

/-! ## resets -/

/-- The peer does not support RESET_STREAM_AT, and no reset has a reliable size. -/
structure Plain (l : SendLink) : Prop where
  sound : l.Sound
  supports : l.stream.supportsResetStreamAt = false
  resets : ∀ r, l.HasReset r → r.reliableSize = 0

/-- The peer is not found to support RESET_STREAM_AT. -/
def NotEnabled (_ : SendLink) (op : Op) : Prop := op ≠ .enableResetStreamAt

theorem Plain.change (hl : l.Plain) (h : Change NotEnabled l l') : l'.Plain := by
  have hsound := hl.sound.change h
  have hoffset := SendStream.reliableOffset_of_not_supports hl.supports
  cases h with
  | signal | start | buffer | giveBack | finish | close | setReliableBoundary | shutdown
  | widen | ackLate | ack | loseLate | drop | requeue => exact { hl with sound := hsound }
  | reset | stopSending =>
    refine { hl with sound := hsound, resets := fun r hr => ?_ }
    obtain hr | hr | hr := hr
    · exact hl.resets r (.inl hr)
    · exact hl.resets r (.inr (.inl hr))
    · cases hr
      simp [hoffset]
  | enableResetStreamAt hG => exact absurd rfl hG
  | pop s f hshutdown habandoned hpops =>
    refine ⟨hsound, ?_, fun r hr => hl.resets r ?_⟩
    · cases hpops with
      | again | part | fin => exact hl.supports
      | new s' f hnew =>
        obtain ⟨nextFrame, dataForWriting, writeSignal, flowController, rfl⟩ := hnew.same
        exact hl.supports
    · obtain hr | hr | hr := hr
      · exact .inl hr
      · exact .inr (.inl hr)
      · exact .inr (.inr (hpops.sameReset.control.symm.trans hr))
  | getControlFrame f hf =>
    exact { hl with sound := hsound, resets := fun r hr => hl.resets r (hasReset_emit hf hr) }
  | ackResetLate | ackReset | loseResetLate =>
    exact { hl with sound := hsound, resets := fun r hr => hl.resets r (hasReset_settle hr) }
  | loseReset i f hf hsize =>
    exact { hl with sound := hsound, resets := fun r hr => hl.resets r (hasReset_requeue hf hr) }

theorem Plain.step (hl : l.Plain) (op : Op) (hop : op ≠ .enableResetStreamAt)
    (hstep : l.step op = .ok l') : l'.Plain := by
  obtain ⟨l₁, hchanges, hends⟩ := (changes_step hl.sound (G := NotEnabled) hop).of_ok hstep
  have hl₁ := changes_invariant (I := Plain) (fun _ _ _ hl h => hl.change h) hl.sound hl hchanges
  obtain rfl | hcomplete := hends
  · exact hl₁.2
  · rw [hcomplete.result]
    exact { hl₁.2 with sound := ⟨hl₁.1.buffered, hl₁.1.idle⟩ }

end SendLink

end MoqQuic.Quic
