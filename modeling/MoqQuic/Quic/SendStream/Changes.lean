import MoqQuic.Quic.SendStream.Link
import MoqQuic.Quic.SendStream.Pops

/-!
# MoqQuic.Quic.SendStream.Changes

What a step of a send link can do.

Each step is a sequence of a few changes, at the end of which the stream may report that it is
completed. A change is one assignment of the source, or a few that always come together, with the
conditions under which it happens. The invariants of the link are proved for the changes, and the
rule `reaches_invariant` carries them to whole runs.
-/

namespace MoqQuic.Quic

open Parse Outcome Machine

/-- The limits grow, or other streams send within the limit of the connection. -/
structure Widens (c c' : StreamFlow) : Prop where
  bytesSent : c'.stream.bytesSent = c.stream.bytesSent
  sendWindow : c.stream.sendWindow ≤ c'.stream.sendWindow
  connection : c.connection.bytesSent ≤ c.connection.sendWindow →
    c'.connection.bytesSent ≤ c'.connection.sendWindow

namespace SendStream

variable {s : SendStream}

/-- The data is buffered behind what is buffered already. -/
theorem bufferData_eq (hb : s.Buffered) (hdata : s.dataForWriting ≠ []) :
    ∃ f : StreamFrame, f.offset = s.writeOffset ∧ f.data ≠ [] ∧ f.data = s.unsent ∧
      s.bufferData = { s with nextFrame := some f, dataForWriting := [] } := by
  unfold bufferData unsent
  cases hnext : s.nextFrame with
  | none => exact ⟨_, rfl, hdata, rfl, rfl⟩
  | some f =>
    exact ⟨{ f with data := f.data ++ s.dataForWriting }, (hb f hnext).1, by simp [hdata], rfl, rfl⟩

theorem cutFrame_zero (f : StreamFrame) : cutFrame 0 f = none := if_pos (Nat.zero_le _)

/-- The stream that is reset. Nothing is below a reliable size of zero, so this is what both kinds
of reset leave. -/
abbrev afterReset (s : SendStream) (errorCode : Nat) : SendStream :=
  { s with
    numOutstandingFrames := if s.reliableOffset = 0 then 0 else s.numOutstandingFrames
    retransmissionQueue := s.retransmissionQueue.filterMap (cutFrame s.reliableOffset)
    resetErr := some { streamID := s.streamID, errorCode := errorCode, remote := false }
    queuedResetStreamFrame := some
      { streamID := s.streamID
        errorCode := errorCode
        finalSize := max s.writeOffset s.reliableOffset
        reliableSize := s.reliableOffset }
    nextFrame := s.nextFrame.bind (cutFrame s.reliableOffset)
    writeSignal := true }

/-- The stream that the peer has stopped. -/
abbrev afterStop (s : SendStream) (err : StreamError) : SendStream :=
  { s with
    numOutstandingFrames := 0
    retransmissionQueue := []
    reliableSize := 0
    resetErr := some err
    queuedResetStreamFrame := some
      { streamID := s.streamID, errorCode := err.errorCode, finalSize := s.writeOffset }
    nextFrame := none
    writeSignal := true }

theorem resetLocally_eq (errorCode : Nat) : s.resetLocally errorCode = s.afterReset errorCode := by
  unfold resetLocally afterReset
  by_cases hzero : s.reliableOffset = 0
  · have hnext : s.nextFrame.bind (cutFrame 0) = none := by
      cases s.nextFrame <;> simp [cutFrame_zero]
    have hqueue : s.retransmissionQueue.filterMap (cutFrame 0) = [] := by
      simp [cutFrame_zero]
    simp [hzero, hnext, hqueue, returnFramesToPool, signalWrite]
  · simp [hzero, Nat.pos_of_ne_zero hzero, signalWrite]

theorem le_offset_of_cutFrame {n : Nat} {f : StreamFrame} (h : cutFrame n f = none) :
    n ≤ f.offset := by
  unfold cutFrame at h
  split at h
  · assumption
  · split at h <;> cases h

/-- What is left of a frame starts at the same offset, and has data if the frame has. -/
theorem cutFrame_keeps {n : Nat} {f f' : StreamFrame} (h : cutFrame n f = some f') :
    f'.offset = f.offset ∧ (f.data ≠ [] → f'.data ≠ []) := by
  unfold cutFrame at h
  split at h
  · cases h
  · next hbefore =>
    split at h
    · cases h
      refine ⟨rfl, fun hdata => ?_⟩
      rw [Ne, List.take_eq_nil_iff]
      rintro (hzero | hnil)
      · omega
      · exact hdata hnil
    · cases h
      exact ⟨rfl, id⟩

end SendStream

namespace SendLink

variable {G : SendLink → Op → Prop} {l l' : SendLink}

/-- **The changes** of a link. Those that take away what is to be sent, or move the boundary up to
which it is sent, come from one call each, and meet the condition `G` of that call. -/
inductive Change (G : SendLink → Op → Prop) (l : SendLink) : SendLink → Prop
  | signal (writeSignal cancellationFlagged : Bool) : Change G l { l with stream := { l.stream with
      writeSignal := writeSignal, cancellationFlagged := cancellationFlagged } }
  | start (p : Bytes) (hp : p ≠ []) (hidle : l.writing = none)
      (hreset : l.stream.resetErr = none) (hshutdown : l.stream.shutdownErr = false)
      (hopen : l.stream.finishedWriting = false) (hdata : l.stream.dataForWriting = []) :
      Change G l { l with
        stream := { l.stream with dataForWriting := p }
        writing := some p.length
        written := l.written ++ p }
  | buffer (f : StreamFrame) (hoffset : f.offset = l.stream.writeOffset) (hne : f.data ≠ [])
      (hdata : f.data = l.stream.unsent) :
      Change G l { l with
        stream := { l.stream with nextFrame := some f, dataForWriting := [] }
        writing := none }
  | giveBack : Change G l { l with
      stream := { l.stream with dataForWriting := [] }
      writing := none
      written := l.written.take (l.written.length - l.stream.dataForWriting.length) }
  | finish (h : l.stream.dataForWriting = [] ∨ l.stream.shutdownErr = true ∨
      l.stream.resetErr.isSome) : Change G l { l with writing := none }
  | close (hshutdown : l.stream.shutdownErr = false) :
      Change G l { l with stream := { l.stream with finishedWriting := true } }
  | setReliableBoundary (hG : G l .setReliableBoundary) :
      Change G l { l with stream := { l.stream with
        reliableSize := l.stream.writeOffset + l.stream.bufferedLen } }
  | reset (errorCode : Nat) (hG : G l (.cancelWrite errorCode))
      (hshutdown : l.stream.shutdownErr = false) (hreset : l.stream.resetErr = none) :
      Change G l { l with stream := { l.stream with
        numOutstandingFrames :=
          if l.stream.reliableOffset = 0 then 0 else l.stream.numOutstandingFrames
        retransmissionQueue :=
          l.stream.retransmissionQueue.filterMap (SendStream.cutFrame l.stream.reliableOffset)
        resetErr := some
          { streamID := l.stream.streamID, errorCode := errorCode, remote := false }
        queuedResetStreamFrame := some
          { streamID := l.stream.streamID
            errorCode := errorCode
            finalSize := max l.stream.writeOffset l.stream.reliableOffset
            reliableSize := l.stream.reliableOffset }
        cancellationFlagged := true
        nextFrame := l.stream.nextFrame.bind (SendStream.cutFrame l.stream.reliableOffset)
        writeSignal := true } }
  | enableResetStreamAt (hG : G l .enableResetStreamAt) :
      Change G l { l with stream := { l.stream with supportsResetStreamAt := true } }
  | shutdown (hG : G l .closeForShutdown) (hshutdown : l.stream.shutdownErr = false)
      (hopen : l.stream.finishedWriting = false) :
      Change G l { l with stream := { l.stream with
        retransmissionQueue := []
        shutdownErr := true
        nextFrame := none
        writeSignal := true } }
  | widen (c : StreamFlow) (hc : Widens l.stream.flowController c) :
      Change G l { l with stream := { l.stream with flowController := c } }
  | stopSending (errorCode : Nat) (hG : G l (.handleStopSendingFrame errorCode))
      (hshutdown : l.stream.shutdownErr = false) (habandoned : l.stream.abandoned = false)
      (err : StreamError) :
      Change G l { l with stream := { l.stream with
        numOutstandingFrames := 0
        retransmissionQueue := []
        reliableSize := 0
        resetErr := some err
        queuedResetStreamFrame := some
          { streamID := l.stream.streamID
            errorCode := err.errorCode
            finalSize := l.stream.writeOffset }
        nextFrame := none
        writeSignal := true } }
  | pop (s : SendStream) (f : StreamFrame) (hshutdown : l.stream.shutdownErr = false)
      (habandoned : l.stream.abandoned = false) (hpops : l.stream.Pops s (some f)) :
      Change G l { l with
        stream := { s with numOutstandingFrames := s.numOutstandingFrames + 1 }
        inFlight := l.inFlight ++ [f]
        sent := l.sent ++ [f]
        fresh := if l.stream.retransmissionQueue = [] then l.fresh ++ [f] else l.fresh }
  | getControlFrame (f : ResetStreamFrame) (hf : l.stream.queuedResetStreamFrame = some f) :
      Change G l { l with
        stream := { l.stream with
          numOutstandingFrames := l.stream.numOutstandingFrames + 1
          queuedResetStreamFrame := none }
        resetsInFlight := l.resetsInFlight ++ [f]
        resets := l.resets ++ [f] }
  | ackLate (i : Nat) (f : StreamFrame) (hf : l.inFlight[i]? = some f)
      (habandoned : l.stream.abandoned = true) :
      Change G l { l with inFlight := l.inFlight.eraseIdx i, acked := l.acked ++ [f] }
  | ack (i : Nat) (f : StreamFrame) (hf : l.inFlight[i]? = some f)
      (habandoned : l.stream.abandoned = false) :
      Change G l { l with
        stream := { l.stream with numOutstandingFrames := l.stream.numOutstandingFrames - 1 }
        inFlight := l.inFlight.eraseIdx i
        acked := l.acked ++ [f] }
  | loseLate (i : Nat) (f : StreamFrame) (hf : l.inFlight[i]? = some f)
      (habandoned : l.stream.abandoned = true) :
      Change G l { l with inFlight := l.inFlight.eraseIdx i }
  | drop (i : Nat) (f : StreamFrame) (hf : l.inFlight[i]? = some f)
      (habandoned : l.stream.abandoned = false) (hreset : l.stream.resetErr.isSome)
      (hbeyond : l.stream.reliableOffset ≤ f.offset) :
      Change G l { l with
        stream := { l.stream with numOutstandingFrames := l.stream.numOutstandingFrames - 1 }
        inFlight := l.inFlight.eraseIdx i }
  | requeue (i : Nat) (f f' : StreamFrame) (hf : l.inFlight[i]? = some f)
      (habandoned : l.stream.abandoned = false)
      (hcut : l.stream.resetErr = none ∧ f' = f ∨
        l.stream.resetErr.isSome ∧ SendStream.cutFrame l.stream.reliableOffset f = some f') :
      Change G l { l with
        stream := { l.stream with
          numOutstandingFrames := l.stream.numOutstandingFrames - 1
          retransmissionQueue :=
            l.stream.retransmissionQueue ++ [{ f' with dataLenPresent := true }] }
        inFlight := l.inFlight.eraseIdx i }
  | ackResetLate (i : Nat) (f : ResetStreamFrame) (hf : l.resetsInFlight[i]? = some f)
      (hsize : f.reliableSize ≠ l.stream.reliableOffset) :
      Change G l { l with
        resetsInFlight := l.resetsInFlight.eraseIdx i
        ackedResets := l.ackedResets ++ [f] }
  | ackReset (i : Nat) (f : ResetStreamFrame) (hf : l.resetsInFlight[i]? = some f)
      (hsize : f.reliableSize = l.stream.reliableOffset) :
      Change G l { l with
        stream := { l.stream with numOutstandingFrames := l.stream.numOutstandingFrames - 1 }
        resetsInFlight := l.resetsInFlight.eraseIdx i
        ackedResets := l.ackedResets ++ [f] }
  | loseResetLate (i : Nat) (f : ResetStreamFrame) (hf : l.resetsInFlight[i]? = some f)
      (hsize : f.reliableSize ≠ l.stream.reliableOffset) :
      Change G l { l with resetsInFlight := l.resetsInFlight.eraseIdx i }
  | loseReset (i : Nat) (f : ResetStreamFrame) (hf : l.resetsInFlight[i]? = some f)
      (hsize : f.reliableSize = l.stream.reliableOffset) :
      Change G l { l with
        stream := { l.stream with
          numOutstandingFrames := l.stream.numOutstandingFrames - 1
          queuedResetStreamFrame := some f }
        resetsInFlight := l.resetsInFlight.eraseIdx i }

/-- The stream reports that it is completed. -/
structure Completes (l l' : SendLink) : Prop where
  new : l.stream.completed = false
  buffered : l.stream.bufferedLen = 0
  outstanding : l.stream.numOutstandingFrames ≤ 0
  queue : l.stream.retransmissionQueue = []
  control : l.stream.queuedResetStreamFrame = none
  ended : l.stream.finSent = true ∨ l.stream.resetErr.isSome
  result : l' = { l with
    stream := { l.stream with completed := true }, completions := l.completions + 1 }

/-- The stream checks whether it is completed. -/
def Ends (l l' : SendLink) : Prop := l' = l ∨ Completes l l'

/-- Changes, and then perhaps the stream is completed. -/
def Changes (G : SendLink → Op → Prop) (l l' : SendLink) : Prop :=
  ∃ l₁, Relation.ReflTransGen (Change G) l l₁ ∧ Ends l₁ l'

theorem Changes.refl : Changes G l l := ⟨l, .refl, .inl rfl⟩

variable {l₁ : SendLink}

theorem Change.ends (h : Change G l l₁) (he : Ends l₁ l') : Changes G l l' :=
  ⟨l₁, .single h, he⟩

theorem Change.one (h : Change G l l') : Changes G l l' := h.ends (.inl rfl)

theorem Change.head (h : Change G l l₁) (hs : Changes G l₁ l') : Changes G l l' := by
  obtain ⟨l₂, hs, he⟩ := hs
  exact ⟨l₂, .head h hs, he⟩

theorem ends_isNewlyCompleted (l : SendLink) :
    Ends l ({ l with stream := l.stream.isNewlyCompleted.2 }.report
      l.stream.isNewlyCompleted.1) := by
  unfold SendStream.isNewlyCompleted
  split
  · exact .inl rfl
  · next hnew =>
    split
    · exact .inl rfl
    · next hbuffered =>
      split
      · exact .inl rfl
      · next hwaits =>
        split
        · next hended =>
          rw [not_or, not_or, not_not, Option.not_isSome_iff_eq_none] at hwaits
          exact .inr {
            new := Bool.eq_false_of_not_eq_true hnew
            buffered := Nat.eq_zero_of_not_pos hbuffered
            outstanding := Int.not_lt.mp hwaits.1
            queue := hwaits.2.1
            control := hwaits.2.2
            ended := hended.imp id And.left
            result := rfl }
        · exact .inl rfl

/-! ## writing -/

theorem changes_flagReset (len rest n : Nat) (err : StreamError)
    (hreset : l.stream.resetErr.isSome) :
    Changes G l (l.afterWrite len rest (l.stream.flagReset n err)) := by
  refine Change.head (.finish (.inr (.inr hreset))) ?_
  exact Change.ends (.signal l.stream.writeSignal true) (ends_isNewlyCompleted _)

theorem changes_finishWrite {len : Nat} (rest n : Nat)
    (hends : l.stream.dataForWriting = [] ∨ l.stream.shutdownErr = true ∨
      l.stream.resetErr.isSome) :
    Changes G l (l.afterWrite len rest (l.stream.finishWrite len n)) := by
  unfold SendStream.finishWrite
  split
  · exact Change.one (.finish hends)
  · split
    · exact Change.one (.finish hends)
    · split
      · next err herr => exact changes_flagReset _ _ _ _ (by rw [herr]; rfl)
      · exact Change.one (.finish hends)

theorem changes_writeRound {len : Nat} (hb : l.stream.Buffered) (hlen : l.writing = some len)
    (expired : Bool) :
    Changes G l (l.afterWrite len l.stream.dataForWriting.length
      (l.stream.writeRound len expired)) := by
  unfold SendStream.writeRound
  split
  · next hbuffer =>
    obtain ⟨f, hoffset, hne, hdata, hstream⟩ := SendStream.bufferData_eq hb hbuffer.2
    rw [hstream]
    exact Change.one (.buffer f hoffset hne hdata)
  · dsimp only
    split
    · exact Change.one .giveBack
    · split
      · next hends => exact changes_finishWrite _ _ hends
      · have hsame : l.afterWrite len l.stream.dataForWriting.length (l.stream, .waits) = l := by
          unfold afterWrite
          rw [← hlen]
        rw [hsame]
        exact .refl

/-- A `Write` that does nothing. -/
theorem afterWrite_idle (hidle : l.writing = none) (len n : Nat) (err : Option WriteError) :
    l.afterWrite len 0 (l.stream, .returned n err false) = l := by
  obtain ⟨stream, writing, inFlight, resetsInFlight, sent, fresh, resets, acked, ackedResets,
    completions, written⟩ := l
  cases hidle
  simp [afterWrite, report]

/-- What is set before `write` runs does not matter, except for the bytes written. -/
theorem afterWrite_congr {len rest : Nat} (stream : SendStream) (writing : Option Nat)
    (result : SendStream × SendStream.WriteOutcome) :
    { l with stream := stream, writing := writing }.afterWrite len rest result =
      l.afterWrite len rest result := by
  obtain ⟨stream', outcome⟩ := result
  cases outcome <;> rfl

theorem changes_write (hb : l.stream.Buffered) (hdata : l.writing = none → l.stream.resetErr = none →
    l.stream.shutdownErr = false → l.stream.dataForWriting = []) (p : Bytes)
    (expired expired' : Bool) : Changes G l (l.write p expired expired') := by
  unfold write
  split
  · exact .refl
  · next hwriting =>
    have hidle : l.writing = none := Option.not_isSome_iff_eq_none.mp hwriting
    dsimp only
    unfold SendStream.write
    generalize hround : SendStream.writeRound { l.stream with dataForWriting := p }
      p.length expired' = round
    cases hreset : l.stream.resetErr with
    | some err =>
      rw [if_neg (by simp)]
      exact changes_flagReset _ _ _ _ (by rw [hreset]; rfl)
    | none =>
      cases hshutdown : l.stream.shutdownErr with
      | true =>
        simp only [Bool.true_eq_false, false_and, and_false, ↓reduceIte]
        rw [afterWrite_idle hidle]
        exact .refl
      | false =>
        cases hopen : l.stream.finishedWriting with
        | true =>
          simp only [Bool.true_eq_false, Bool.false_eq_true, false_and, and_false, ↓reduceIte]
          rw [afterWrite_idle hidle]
          exact .refl
        | false =>
          cases expired with
          | true =>
            simp only [Bool.true_eq_false, Bool.false_eq_true, and_false, ↓reduceIte]
            rw [afterWrite_idle hidle]
            exact .refl
          | false =>
            simp only [Bool.false_eq_true, and_self, ↓reduceIte]
            by_cases hp : p = []
            · subst hp
              rw [if_pos rfl, List.append_nil]
              rw [show { l with written := l.written } = l from rfl]
              rw [List.length_nil, afterWrite_idle hidle]
              exact .refl
            · rw [if_neg hp, ← hround, ← afterWrite_congr { l.stream with dataForWriting := p }
                (some p.length)]
              refine Change.head
                (.start p hp hidle hreset hshutdown hopen (hdata hidle hreset hshutdown))
                ?_
              exact changes_writeRound
                (l := { l with
                  stream := { l.stream with dataForWriting := p }
                  writing := some p.length
                  written := l.written ++ p }) hb rfl expired'

theorem changes_wake (hb : l.stream.Buffered) (timer expired : Bool) : Changes G l (l.wake timer expired) := by
  unfold wake
  split
  · exact .refl
  · next len hlen =>
    split
    · dsimp only
      cases timer with
      | true => exact changes_writeRound hb hlen expired
      | false =>
        have hround := changes_writeRound (G := G)
          (l := { l with stream := { l.stream with writeSignal := false } }) hb hlen expired
        rw [afterWrite_congr _ l.writing] at hround
        exact Change.head (.signal false l.stream.cancellationFlagged) hround
    · exact .refl

/-! ## the other calls -/

theorem changes_close : Changes G l ({ l with stream := l.stream.close.2 }.report l.stream.close.1) := by
  unfold SendStream.close
  split
  · exact .refl
  · next hopen =>
    have hshutdown : l.stream.shutdownErr = false :=
      Bool.eq_false_of_not_eq_true fun h => hopen (.inl h)
    refine Change.head (.close hshutdown) ?_
    refine Change.ends (.signal l.stream.writeSignal
      (l.stream.cancellationFlagged || l.stream.resetErr.isSome)) (ends_isNewlyCompleted _)

theorem changes_cancelWrite {errorCode : Nat} (hG : G l (.cancelWrite errorCode)) :
    Changes G l ({ l with stream := (l.stream.cancelWrite errorCode).2 }.report
      (l.stream.cancelWrite errorCode).1) := by
  unfold SendStream.cancelWrite
  split
  · exact .refl
  · next hshutdown =>
    split
    · exact Change.ends (.signal l.stream.writeSignal true) (ends_isNewlyCompleted _)
    · next hreset =>
      rw [SendStream.resetLocally_eq]
      exact Change.one (.reset errorCode hG (Bool.eq_false_of_not_eq_true hshutdown)
        (Option.not_isSome_iff_eq_none.mp hreset))

theorem changes_closeForShutdown (hG : G l .closeForShutdown) :
    Changes G l { l with stream := l.stream.closeForShutdown } := by
  unfold SendStream.closeForShutdown
  split
  · next hopen => exact Change.one (.shutdown hG hopen.1 hopen.2)
  · exact Change.one (.signal true l.stream.cancellationFlagged)

theorem changes_handleStopSendingFrame {errorCode : Nat}
    (hG : G l (.handleStopSendingFrame errorCode)) :
    Changes G l { l with stream := l.stream.handleStopSendingFrame errorCode } := by
  unfold SendStream.handleStopSendingFrame
  split
  · exact .refl
  · next hstop =>
    rw [not_or] at hstop
    refine Change.one (.stopSending errorCode hG (Bool.eq_false_of_not_eq_true hstop.1) ?_ _)
    rw [SendStream.abandoned, Bool.and_eq_false_iff]
    by_cases hreset : l.stream.resetErr.isSome
    · exact .inr (decide_eq_false fun h => hstop.2 ⟨hreset, h⟩)
    · exact .inl (Bool.eq_false_of_not_eq_true hreset)

variable (c : StreamFlow)

theorem widens_updateSendWindow (limit : Nat) : Widens c (c.updateSendWindow limit).2 := by
  unfold StreamFlow.updateSendWindow BaseFlowController.updateSendWindow
  split
  · next h =>
    split at h
    · next hlarger =>
      cases h
      exact ⟨rfl, Nat.le_of_lt hlarger, id⟩
    · cases h
      exact ⟨rfl, Nat.le_refl _, id⟩

theorem widens_updateConnectionWindow (limit : Nat) :
    Widens c { c with connection :=
      ⟨(c.connection.toBaseFlowController.updateSendWindow limit).2⟩ } := by
  unfold BaseFlowController.updateSendWindow
  split
  · next hlarger => exact ⟨rfl, Nat.le_refl _, fun h => h.trans (Nat.le_of_lt hlarger)⟩
  · exact ⟨rfl, Nat.le_refl _, id⟩

theorem widens_othersSend (n : Nat) :
    Widens c { c with connection := ⟨c.connection.toBaseFlowController.addBytesSent
      (min n c.connection.sendWindowSize)⟩ } := by
  refine ⟨rfl, Nat.le_refl _, fun h => ?_⟩
  have hsize : c.connection.sendWindowSize = c.connection.sendWindow - c.connection.bytesSent :=
    if_neg (Nat.not_lt.mpr h)
  dsimp only [BaseFlowController.addBytesSent]
  omega

/-! ## frames -/

/-- The counter of outstanding frames is too low for a frame that is in flight. -/
def Overdrawn (l : SendLink) : Prop :=
  l.stream.numOutstandingFrames < 1 ∧
    (l.stream.abandoned = false ∧ l.inFlight ≠ [] ∨
      ∃ f ∈ l.resetsInFlight, f.reliableSize = l.stream.reliableOffset)

/-- The counter becomes negative only if it was too low. -/
abbrev CounterPanic (l : SendLink) : StreamPanic → Prop :=
  fun e => e = .numOutstandingFramesNegative → l.Overdrawn

theorem ne_nil_of_getElem? {α : Type} {as : List α} {i : Nat} {a : α} (h : as[i]? = some a) :
    as ≠ [] :=
  List.ne_nil_of_mem (List.mem_of_getElem? h)

theorem holds_settleFrame (h : l.stream.abandoned = false ∧ l.inFlight ≠ [] ∨
      ∃ f ∈ l.resetsInFlight, f.reliableSize = l.stream.reliableOffset) :
    Holds l.CounterPanic (fun s => s = { l.stream with
        numOutstandingFrames := l.stream.numOutstandingFrames - 1 }) l.stream.settleFrame := by
  unfold SendStream.settleFrame
  split
  · next hlow =>
    intro _
    exact ⟨by omega, h⟩
  · rfl

theorem changes_popStreamFrame (hb : l.stream.Buffered) (maxBytes : Int) :
    Holds l.CounterPanic (Changes G l) (l.step (.popStreamFrame maxBytes)) := by
  have hpop := SendStream.pops_popStreamFrame hb maxBytes
  dsimp only [step]
  cases hresult : l.stream.popStreamFrame maxBytes with
  | error e =>
    rw [hresult] at hpop
    exact fun he => absurd he hpop
  | ok popped =>
    obtain ⟨stream, frame, blocked, hasMore⟩ := popped
    rcases hpop.of_ok hresult with ⟨hnone, hsame⟩ | ⟨s, f, hsome, hgoes, hpops, hstream⟩
    · cases hnone
      cases hsame
      exact .refl
    · cases hsome
      cases hstream
      exact Change.one (.pop s f hgoes.1 hgoes.2 hpops)

variable (i : Nat)

theorem changes_ackFrame : Holds l.CounterPanic (Changes G l) (l.step (.ackFrame i)) := by
  dsimp only [step]
  split
  · exact .refl
  · next f hf =>
    unfold SendStream.onAcked
    split
    · next habandoned => exact Change.one (.ackLate i f hf habandoned)
    · next habandoned =>
      have habandoned := Bool.eq_false_of_not_eq_true habandoned
      rw [bind_assoc]
      refine (holds_settleFrame (.inl ⟨habandoned, ne_nil_of_getElem? hf⟩)).bind fun s hs => ?_
      cases hs
      exact Change.ends (.ack i f hf habandoned) (ends_isNewlyCompleted _)

theorem changes_loseFrame : Holds l.CounterPanic (Changes G l) (l.step (.loseFrame i)) := by
  dsimp only [step]
  split
  · exact .refl
  · next f hf =>
    unfold SendStream.onLost
    split
    · next habandoned => exact Change.one (.loseLate i f hf habandoned)
    · next habandoned =>
      have habandoned := Bool.eq_false_of_not_eq_true habandoned
      rw [bind_assoc]
      refine (holds_settleFrame (.inl ⟨habandoned, ne_nil_of_getElem? hf⟩)).bind fun s hs => ?_
      cases hs
      dsimp only
      split
      · next hcut =>
        split at hcut
        · next hreset =>
          refine Change.ends (.drop i f hf habandoned hreset ?_) (ends_isNewlyCompleted _)
          exact SendStream.le_offset_of_cutFrame hcut
        · cases hcut
      · next f' hcut =>
        refine Change.one (.requeue i f f' hf habandoned ?_)
        split at hcut
        · next hreset => exact .inr ⟨hreset, hcut⟩
        · next hreset =>
          cases hcut
          exact .inl ⟨Option.not_isSome_iff_eq_none.mp hreset, rfl⟩

theorem changes_ackReset : Holds l.CounterPanic (Changes G l) (l.step (.ackReset i)) := by
  dsimp only [step]
  split
  · exact .refl
  · next f hf =>
    unfold SendStream.onResetAcked
    split
    · next hsize => exact Change.one (.ackResetLate i f hf hsize)
    · next hsize =>
      have hsize := not_not.mp hsize
      rw [bind_assoc]
      refine (holds_settleFrame (.inr ⟨f, List.mem_of_getElem? hf, hsize⟩)).bind fun s hs => ?_
      cases hs
      exact Change.ends (.ackReset i f hf hsize) (ends_isNewlyCompleted _)

theorem changes_loseReset : Holds l.CounterPanic (Changes G l) (l.step (.loseReset i)) := by
  dsimp only [step]
  split
  · exact .refl
  · next f hf =>
    unfold SendStream.onResetLost
    split
    · next hsize => exact Change.one (.loseResetLate i f hf hsize)
    · next hsize => exact Change.one (.loseReset i f hf (not_not.mp hsize))

theorem changes_getControlFrame : Holds l.CounterPanic (Changes G l) (l.step .getControlFrame) := by
  dsimp only [step]
  unfold SendStream.getControlFrame
  cases hf : l.stream.queuedResetStreamFrame with
  | none => exact .refl
  | some f => exact Change.one (.getControlFrame f hf)

/-! ## steps and runs -/

/-- What the calls rely on: the buffered frame is the next one to be sent, and the `Write` before
has returned with all its data sent, buffered or given back. -/
structure Sound (l : SendLink) : Prop where
  buffered : l.stream.Buffered
  idle : l.writing = none → l.stream.resetErr = none → l.stream.shutdownErr = false →
    l.stream.dataForWriting = []

/-- **A step** is a sequence of changes. -/
theorem changes_step (hl : l.Sound) {op : Op} (hG : G l op) :
    Holds l.CounterPanic (Changes G l) (l.step op) := by
  cases op with
  | write p expired expired' => exact changes_write hl.buffered hl.idle p expired expired'
  | wake timer expired => exact changes_wake hl.buffered timer expired
  | close => exact changes_close
  | setReliableBoundary => exact Change.one (.setReliableBoundary hG)
  | cancelWrite errorCode => exact changes_cancelWrite hG
  | enableResetStreamAt => exact Change.one (.enableResetStreamAt hG)
  | closeForShutdown => exact changes_closeForShutdown hG
  | updateSendWindow limit => exact Change.one (.widen _ (widens_updateSendWindow _ limit))
  | handleStopSendingFrame errorCode => exact changes_handleStopSendingFrame hG
  | popStreamFrame maxBytes => exact changes_popStreamFrame hl.buffered maxBytes
  | getControlFrame => exact changes_getControlFrame
  | ackFrame i => exact changes_ackFrame i
  | loseFrame i => exact changes_loseFrame i
  | ackReset i => exact changes_ackReset i
  | loseReset i => exact changes_loseReset i
  | updateConnectionWindow limit =>
    exact Change.one (.widen _ (widens_updateConnectionWindow _ limit))
  | othersSend n => exact Change.one (.widen _ (widens_othersSend _ n))

theorem Sound.change (hl : l.Sound) (h : Change G l l') : l'.Sound := by
  obtain ⟨hb, hidle⟩ := hl
  cases h with
  | signal | close | setReliableBoundary | enableResetStreamAt | widen | getControlFrame
  | ackLate | ack | loseLate | drop | requeue | ackResetLate | ackReset | loseResetLate
  | loseReset => exact ⟨hb, hidle⟩
  | start p hp hwriting hreset hshutdown hopen hdata => exact ⟨hb, fun h => by cases h⟩
  | buffer f hoffset hne hdata =>
    refine ⟨fun g hg => ?_, fun _ _ _ => rfl⟩
    cases hg
    exact ⟨hoffset, hne⟩
  | giveBack => exact ⟨hb, fun _ _ _ => rfl⟩
  | finish hends =>
    refine ⟨hb, fun _ hreset hshutdown => ?_⟩
    rcases hends with hdata | h | h
    · exact hdata
    · rw [hshutdown] at h
      cases h
    · rw [hreset] at h
      cases h
  | reset errorCode hG hshutdown hreset =>
    refine ⟨fun f hf => ?_, fun _ h => by cases h⟩
    obtain ⟨g, hg, hcut⟩ := Option.bind_eq_some_iff.mp hf
    have hkeeps := SendStream.cutFrame_keeps hcut
    exact ⟨hkeeps.1.trans (hb g hg).1, hkeeps.2 (hb g hg).2⟩
  | shutdown hG hshutdown hopen => exact ⟨fun _ h => (by cases h), fun _ _ h => by cases h⟩
  | stopSending errorCode hG hshutdown habandoned err => exact ⟨fun _ h => (by cases h), fun _ h => by cases h⟩
  | pop s f hshutdown habandoned hpops =>
    cases hpops with
    | again | part | fin => exact ⟨hb, hidle⟩
    | new s' f hnew =>
      obtain ⟨nextFrame, dataForWriting, writeSignal, flowController, rfl⟩ := hnew.same
      exact ⟨hnew.buffered, fun hw hr hs => hnew.idle (hidle hw hr hs)⟩

theorem Sound.completes (hl : l.Sound) (h : Completes l l') : l'.Sound := by
  rw [h.result]
  exact ⟨hl.buffered, hl.idle⟩

theorem sound_new (streamID sendWindow : Nat) (connection : ConnectionFlowController)
    (supports : Bool) : (new streamID sendWindow connection supports).Sound :=
  ⟨fun _ h => (by cases h), fun _ _ _ => rfl⟩

section

variable {I : SendLink → Prop}

theorem changes_invariant (hchange : ∀ l l', Sound l → I l → Change G l l' → I l')
    (hl : l.Sound) (hI : I l) (h : Relation.ReflTransGen (Change G) l l₁) :
    l₁.Sound ∧ I l₁ := by
  induction h with
  | refl => exact ⟨hl, hI⟩
  | tail _ hlast ih => exact ⟨ih.1.change hlast, hchange _ _ ih.1 ih.2 hlast⟩

/-- **Invariants of a link**: what the changes and the completion keep holds in every state that is
reached. -/
theorem reaches_invariant {l₀ : SendLink} (hstart : l₀.Sound ∧ I l₀)
    (hchange : ∀ l l', Sound l → I l → Change G l l' → I l')
    (hcompletes : ∀ l l', Sound l → I l → Completes l l' → I l')
    (h : Reaches step G l₀ l) : l.Sound ∧ I l := by
  refine h.invariant (I := fun l => l.Sound ∧ I l) hstart fun l op l' hl hG hstep => ?_
  obtain ⟨l₁, hchanges, hends⟩ := (changes_step hl.1 hG).of_ok hstep
  have hl₁ := changes_invariant hchange hl.1 hl.2 hchanges
  rcases hends with rfl | hcomplete
  · exact hl₁
  · exact ⟨hl₁.1.completes hcomplete, hcompletes _ _ hl₁.1 hl₁.2 hcomplete⟩

end

/-! ## the frames of a link -/

/-- A frame that was emitted, or is waiting to be emitted again. -/
def Has (l : SendLink) (f : StreamFrame) : Prop :=
  f ∈ l.sent ∨ f ∈ l.inFlight ∨ f ∈ l.stream.retransmissionQueue

variable {f : StreamFrame}

theorem has_of_inFlight {i : Nat} (hf : l.inFlight[i]? = some f) : l.Has f :=
  .inr (.inl (List.mem_of_getElem? hf))

theorem has_settle {counter : Int} {i : Nat} {acked : List StreamFrame} {g : StreamFrame}
    (hg : Has { l with
      stream := { l.stream with numOutstandingFrames := counter }
      inFlight := l.inFlight.eraseIdx i
      acked := acked } g) : l.Has g := by
  rcases hg with hg | hg | hg
  · exact .inl hg
  · exact .inr (.inl (List.mem_of_mem_eraseIdx hg))
  · exact .inr (.inr hg)

theorem has_requeue {counter : Int} {i : Nat} {f g : StreamFrame}
    (hg : Has { l with
      stream := { l.stream with
        numOutstandingFrames := counter
        retransmissionQueue := l.stream.retransmissionQueue ++ [f] }
      inFlight := l.inFlight.eraseIdx i } g) : l.Has g ∨ g = f := by
  rcases hg with hg | hg | hg
  · exact .inl (.inl hg)
  · exact .inl (.inr (.inl (List.mem_of_mem_eraseIdx hg)))
  · exact (List.mem_append.mp hg).imp (fun h => .inr (.inr h)) List.mem_singleton.mp

/-- The link after a frame is emitted. -/
abbrev emitted (l : SendLink) (s : SendStream) (f : StreamFrame) (fresh : List StreamFrame) :
    SendLink :=
  { l with stream := s, inFlight := l.inFlight ++ [f], sent := l.sent ++ [f], fresh := fresh }

theorem has_emit {s : SendStream} {f g : StreamFrame} {fresh : List StreamFrame}
    (hg : Has (l.emitted s f fresh) g) : l.Has g ∨ g = f ∨ g ∈ s.retransmissionQueue := by
  rcases hg with hg | hg | hg
  · exact (List.mem_append.mp hg).imp .inl fun h => .inl (List.mem_singleton.mp h)
  · exact (List.mem_append.mp hg).imp (fun h => .inr (.inl h))
      fun h => .inl (List.mem_singleton.mp h)
  · exact .inr (.inr hg)

/-- The frame ends within what was sent, and if it has the FIN, at the end. -/
def Within (s : SendStream) (f : StreamFrame) : Prop :=
  f.stop ≤ s.writeOffset ∧ (f.fin = true → s.finSent = true ∧ f.stop = s.writeOffset)

theorem Within.front {s : SendStream} (hf : Within s f) (n : Nat) : Within s (f.front n) := by
  refine ⟨?_, fun h => by cases h⟩
  have hstop := hf.1
  simp only [StreamFrame.stop, StreamFrame.front, List.length_take] at hstop ⊢
  omega

theorem Within.behind {s : SendStream} (hf : Within s f) {n : Nat} (hn : n ≤ f.data.length) :
    Within s (f.behind n) := by
  have hstop : (f.behind n).stop = f.stop := by
    simp only [StreamFrame.stop, StreamFrame.behind, List.length_drop]
    omega
  rw [Within, hstop]
  exact hf

end SendLink

end MoqQuic.Quic
