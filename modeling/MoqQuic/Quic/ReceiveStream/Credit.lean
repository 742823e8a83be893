import MoqQuic.Quic.ReceiveStream.Balance
import MoqQuic.Quic.ReceiveStream.Link

/-!
# MoqQuic.Quic.ReceiveStream.Credit

When a receive stream is completed, the connection has got back its final size.

`Accounted` adds to the balance of the stream what was reported: a stream is completed once, and
then all of its credit is returned, or the method that completed it will return it next.

That fails when `CancelRead` was called before a RESET_STREAM_AT frame arrives that promises more
than was read: the handler completes the stream, but it abandons the flow controller only if the
reliable size was read.
-/

namespace MoqQuic.Quic

open Machine Outcome Parse

namespace ReceiveLink

variable {κ : Type} {base : Nat} {l : ReceiveLink κ}

/-- Where the credit of the stream stands, and what was reported. -/
structure Accounted (base : Nat) (l : ReceiveLink κ) : Prop where
  balanced : l.stream.Balanced (base + l.othersRead)
  notDue : l.stream.NotDue
  known : l.stream.completed = true →
    l.stream.flowController.stream.receivedFinalOffset = true ∧ l.stream.finalOffset ≠ MaxByteCount
  /-- all credit is returned once the stream is completed, or it will be -/
  settled : l.stream.completed = true → l.completing ≠ some .abandon → l.stream.Settled
  pending : l.completing = some .abandon → l.stream.cancelledLocally = true ∧
    l.stream.flowController.stream.receivedFinalOffset = true
  reports : l.completions + (if l.completing = none then 0 else 1) =
    if l.stream.completed then 1 else 0
  waits : ∀ len, l.waiting = some (.read len) → l.stream.currentFrame = none ∧ 0 < len

variable {s : ReceiveStream κ}

section

variable (h : Accounted base l)
include h

variable {waiting : Option ReceiveCall}

/-- A new state of the stream that is not completed anew. -/
theorem Accounted.setStream (hbalanced : s.Balanced (base + l.othersRead))
    (hadvances : l.stream.Advances s) (hdue : s.NotDue)
    (hwaits : ∀ len, waiting = some (.read len) → s.currentFrame = none ∧ 0 < len)
    (frames : List StreamFrame) (delivered : Bytes) (output : Option ReceiveOutput) :
    Accounted base { l with
      stream := s
      waiting := waiting
      frames := frames
      delivered := delivered
      output := output } where
  balanced := hbalanced
  notDue := hdue
  known hcompleted := by
    obtain ⟨hreceived, hfinal⟩ := h.known (hadvances.completed ▸ hcompleted)
    obtain ⟨hreceived', -, hsame⟩ := hadvances.received hreceived
    exact ⟨hreceived', hsame ▸ hfinal⟩
  settled hcompleted hpending :=
    hadvances.settled hbalanced (h.settled (hadvances.completed ▸ hcompleted) hpending)
  pending hpending := by
    obtain ⟨hlocal, hreceived⟩ := h.pending hpending
    exact ⟨hadvances.cancelled hlocal, (hadvances.received hreceived).1⟩
  reports := by
    simp only [hadvances.completed]
    exact h.reports
  waits := hwaits

/-- A new state of the stream, which may be completed by it. -/
theorem Accounted.complete (hbalanced : s.Balanced (base + l.othersRead)) (hadvances : l.stream.Advances s)
    (completing : Completing)
    (hnew : s.completed = false → s.finalOffset ≠ MaxByteCount →
      s.cancelledLocally = true ∨ s.errorRead = true → match completing with
        | .abandon => s.cancelledLocally = true
        | .report => s.Settled)
    (hwaits : ∀ len, waiting = some (.read len) → s.currentFrame = none ∧ 0 < len)
    (frames : List StreamFrame) (delivered : Bytes) (output : Option ReceiveOutput) :
    Accounted base (ReceiveLink.complete { l with
      stream := s.isNewlyCompleted.2
      waiting := waiting
      frames := frames
      delivered := delivered
      output := output } s.isNewlyCompleted.1 completing) := by
  have hdue := s.notDue_isNewlyCompleted
  obtain hsame | ⟨hcompletes, hcompleted, hfinal, hwhy⟩ := s.isNewlyCompleted_cases
  · rw [hsame] at hdue ⊢
    exact h.setStream hbalanced hadvances hdue hwaits frames delivered output
  · rw [hcompletes] at hdue ⊢
    have hnew := hnew hcompleted hfinal hwhy
    have hreceived : s.flowController.stream.receivedFinalOffset = true := by
      by_contra hunknown
      exact hfinal (hbalanced.unknown (by simpa using hunknown))
    have hreports := h.reports
    rw [← hadvances.completed, hcompleted] at hreports
    refine ⟨{ hbalanced with }, hdue, fun _ => ⟨hreceived, hfinal⟩, ?_, ?_, ?_, hwaits⟩
    · intro _ hpending
      cases completing with
      | abandon => exact absurd rfl hpending
      | report => exact hnew
    · intro hpending
      cases completing with
      | abandon => exact ⟨hnew, hreceived⟩
      | report => cases hpending
    · simp only [ReceiveLink.complete, if_true] at hreports ⊢
      simp at hreports ⊢
      omega

/-! ## the steps -/

theorem Accounted.afterRead {len : Nat}
    {outcome : ReceiveStream.ReadOutcome}
    (hreads : ReceiveStream.ReadsTo (base + l.othersRead) len l.stream s outcome) :
    Accounted base (l.afterRead len (s, outcome)) := by
  obtain ⟨hbalanced, hsame, houtcome⟩ := hreads
  cases outcome with
  | returned progress err =>
    exact h.complete hbalanced hsame.toAdvances .report
      (fun hcompleted hfinal hwhy =>
        hbalanced.settled_of_read hsame h.notDue hcompleted hfinal hwhy)
      (by simp) _ _ _
  | waits =>
    refine h.setStream hbalanced hsame.toAdvances (hsame.notDue houtcome.2.1 h.notDue)
      (fun len' hlen' => ?_) _ _ _
    rw [Option.some.injEq, ReceiveCall.read.injEq] at hlen'
    exact ⟨houtcome.1, hlen' ▸ houtcome.2.2⟩

theorem Accounted.afterPeek (hbalanced : s.Balanced (base + l.othersRead))
    (hsame : l.stream.SameStatus s) (herror : s.errorRead = l.stream.errorRead) (len : Nat)
    (outcome : ReceiveStream.PeekOutcome) : Accounted base (l.afterPeek len (s, outcome)) := by
  cases outcome with
  | returned | waits =>
    exact h.setStream hbalanced hsame.toAdvances (hsame.notDue herror h.notDue) (by simp) _ _ _

theorem Accounted.wake (timer : Bool) (deadline : Option Nat) :
    Holds (fun _ => True) (Accounted base) (l.wake timer deadline) := by
  rw [ReceiveLink.wake]
  split
  swap
  · exact h
  simp only
  generalize hstream : (if timer = true then l.stream
    else { l.stream with readSignal := false }) = s
  have hl : Accounted base { l with stream := s } := by
    rw [← hstream]
    cases timer with
    | true => exact h
    | false => exact { h with balanced := { h.balanced with } }
  cases hwaiting : l.waiting with
  | none => exact h
  | some call =>
    cases call with
    | read len =>
      obtain ⟨hnone, hlen⟩ := hl.waits len hwaiting
      have hrule := (ReceiveStream.balanced_readRule (base + l.othersRead) s len
        deadline).wakeRead ⟨hl.balanced, .refl s, rfl⟩ (ReceiveStream.rest_of_none hnone) hlen
      exact (holds_orPanic hrule fun _ _ => trivial).bind fun r hr => hl.afterRead hr
    | peek len =>
      have hpeek := hl.balanced.wakePeek len (decide (deadline = some 0))
      exact (holds_orPanic hpeek fun _ _ => trivial).bind fun r hr => hl.afterPeek hr.1 hr.2.1 hr.2.2 len r.2

theorem Accounted.finish : Accounted base l.finish := by
  rw [ReceiveLink.finish]
  cases hcompleting : l.completing with
  | none => exact h
  | some completing =>
    have hreports := h.reports
    rw [hcompleting, if_neg (by simp)] at hreports
    cases completing with
    | abandon =>
      obtain ⟨hlocal, hreceived⟩ := h.pending hcompleting
      have habandon := h.balanced.abandon l.stream.reliableSize l.stream.cancelledRemotely
        l.stream.cancelErr l.stream.readSignal hreceived
        (by simp [ReceiveStream.isCancelled, hlocal])
      refine ⟨habandon.1, h.notDue, fun hcompleted => ?_, fun _ _ => habandon.2, by simp,
        hreports, h.waits⟩
      exact ⟨habandon.2.1, (h.known hcompleted).2⟩
    | report =>
      refine ⟨h.balanced, h.notDue, h.known, fun hcompleted _ => ?_, by simp, hreports, h.waits⟩
      exact h.settled hcompleted (by simp [hcompleting])

end

/-- A reset that comes after `CancelRead` promises no more than was read. -/
def KeepsCredit (l : ReceiveLink κ) : Op κ → Prop
  | .resetStreamFrame frame _ => l.stream.cancelledLocally = true →
      l.stream.completed = false → frame.reliableSize ≤ l.stream.readPos
  | _ => True

section

variable (h : Accounted base l)

include h

theorem Accounted.streamFrame (frame : StreamFrame) (putBack : Option κ)
    (now : Time) : Holds (fun _ => True) (Accounted base)
      (l.handle (.streamFrame frame putBack now)) := by
  have himpl := h.balanced.handleStreamFrameImpl frame putBack now
  rw [handle, ReceiveStream.handleStreamFrame]
  cases hr : l.stream.handleStreamFrameImpl frame putBack now with
  | error e => trivial
  | ok r =>
    obtain ⟨err, s⟩ := r
    cases err with
    | some err => trivial
    | none =>
      have hto := himpl.of_ok hr rfl
      refine h.complete hto.balanced hto.advances .abandon (fun hcompleted hfinal hwhy => ?_)
        (fun len hlen => hto.currentFrame ▸ h.waits len hlen) _ _ _
      cases hwhy with
      | inl hlocal => exact hlocal
      | inr herror =>
        rw [hto.cancelledLocally]
        exact h.balanced.cancelled_of_errorRead h.notDue hto.advances
          (hto.advances.completed ▸ hcompleted) hfinal (hto.errorRead ▸ herror)

theorem Accounted.resetStreamFrame {frame : ResetStreamFrame} {now : Time}
    (hkeeps : l.KeepsCredit (.resetStreamFrame frame now)) :
    Holds (fun _ => True) (Accounted base) (l.handle (.resetStreamFrame frame now)) := by
  rw [handle, ReceiveStream.handleResetStreamFrame]
  cases hr : l.stream.handleResetStreamFrameImpl frame now with
  | mk err s =>
    cases err with
    | some err => trivial
    | none =>
      obtain ⟨hto, hsettled⟩ := h.balanced.handleResetStreamFrameImpl hr
      refine h.complete hto.balanced hto.advances .report (fun hcompleted hfinal hwhy => ?_)
        (fun len hlen => hto.currentFrame ▸ h.waits len hlen) _ _ _
      have hbefore : l.stream.completed = false := hto.advances.completed ▸ hcompleted
      have hlocal : l.stream.cancelledLocally = true := by
        cases hwhy with
        | inl hlocal => exact hto.cancelledLocally ▸ hlocal
        | inr herror =>
          exact h.balanced.cancelled_of_errorRead h.notDue hto.advances hbefore hfinal
            (hto.errorRead ▸ herror)
      cases hsettled with
      | inl hsame => exact (h.notDue.absurd hbefore (hsame ▸ hfinal) (.inl hlocal)).elim
      | inr hs => exact hs (hkeeps hlocal hbefore)

theorem Accounted.cancelRead (errorCode : Nat) :
    Holds (fun _ => True) (Accounted base) (l.handle (.cancelRead errorCode)) := by
  obtain ⟨hbalanced, hadvances, hframe, hlocal⟩ := h.balanced.cancelReadImpl errorCode
  refine h.complete hbalanced hadvances .abandon (fun hcompleted hfinal hwhy => ?_)
    (fun len hlen => hframe ▸ h.waits len hlen) _ _ _
  cases hlocal with
  | inl hsame =>
    rw [hsame] at hcompleted hfinal hwhy
    exact (h.notDue.absurd hcompleted hfinal hwhy).elim
  | inr hlocal => exact hlocal

/-- Each step that keeps the condition keeps the account. -/
theorem Accounted.handle {op : Op κ} (hkeeps : l.KeepsCredit op) :
    Holds (fun _ => True) (Accounted base) (l.handle op) := by
  cases op with
  | streamFrame frame putBack now => exact h.streamFrame frame putBack now
  | resetStreamFrame frame now => exact h.resetStreamFrame hkeeps
  | read len deadline =>
    rw [ReceiveLink.handle]
    split
    · exact h
    · have hrule := (ReceiveStream.balanced_readRule (base + l.othersRead) l.stream len
        deadline).readImpl (fun _ => ⟨h.balanced, .refl l.stream, rfl⟩)
        fun hlast hnone => ⟨h.balanced.readLast hlast hnone,
          { ReceiveStream.SameStatus.refl l.stream with }, trivial⟩
      exact (holds_orPanic hrule fun _ _ => trivial).bind fun r hr => h.afterRead hr
  | peek len expired =>
    rw [ReceiveLink.handle]
    split
    · exact h
    split
    · exact { h with }
    · rename_i hlen
      have hpeek := h.balanced.peekRound len expired
      rw [ReceiveStream.peek, if_neg hlen]
      exact (holds_orPanic hpeek fun _ _ => trivial).bind fun r hr => h.afterPeek hr.1 hr.2.1 hr.2.2 len r.2
  | wake timer deadline => exact h.wake timer deadline
  | cancelRead errorCode => exact h.cancelRead errorCode
  | closeForShutdown | setReadDeadline => exact { h with balanced := { h.balanced with } }
  | getControlFrame now rtt allowed allowed' =>
    obtain ⟨hbalanced, hsame, herror, hframe⟩ :=
      h.balanced.getControlFrame now rtt allowed allowed'
    exact h.setStream hbalanced hsame.toAdvances (hsame.notDue herror h.notDue)
      (fun len hlen => hframe ▸ h.waits len hlen) _ _ _
  | finish => exact h.finish
  | others n connection =>
    have hcredit := h.balanced.credit
    refine { h with balanced := { h.balanced with credit := ?_ } }
    simp only
    omega

end

theorem accounted_new (streamID receiveWindow maxReceiveWindow : Nat)
    (connection : ConnectionFlowController) : Accounted connection.bytesRead
      (new κ streamID receiveWindow maxReceiveWindow connection) where
  balanced :=
    { credit := rfl
      sorter := FrameSorter.within_new
      position := rfl
      known := by simp [new, newReceiveStream, newStreamFlowController]
      unknown := fun _ => rfl
      read := .inl rfl
      remote := by simp [new, newReceiveStream]
      effective := by simp [new, newReceiveStream, ReceiveStream.isRemoteCancellationEffective]
      last := by simp [new, newReceiveStream]
      ended := by simp [new, newReceiveStream] }
  notDue := .inr (.inl rfl)
  known := by simp [new, newReceiveStream]
  settled := by simp [new, newReceiveStream]
  pending := by simp [new]
  reports := rfl
  waits := by simp [new]

/-- **Credit**: in every run in which no reset after `CancelRead` promises more than was read, the
stream is reported as completed at most once, and then exactly its final size was returned to the
connection. -/
theorem receiveLink_returns_finalSize (streamID receiveWindow maxReceiveWindow : Nat)
    (connection : ConnectionFlowController) {l : ReceiveLink κ}
    (hr : Reaches step KeepsCredit
      (new κ streamID receiveWindow maxReceiveWindow connection) l) :
    l.completions ≤ 1 ∧ (l.completions = 1 →
      l.stream.finalOffset ≠ MaxByteCount ∧
        l.stream.flowController.connection.bytesRead =
          connection.bytesRead + l.othersRead + l.stream.finalOffset) := by
  have haccounted : Accounted connection.bytesRead l := by
    refine hr.invariant (accounted_new streamID receiveWindow maxReceiveWindow connection) ?_
    intro l op l' h hkeeps hstep
    have h' : Accounted connection.bytesRead { l with output := none } := { h with }
    have hkeeps' : ReceiveLink.KeepsCredit { l with output := none } op := by
      cases op <;> exact hkeeps
    exact (h'.handle hkeeps').of_ok hstep
  have hreports := haccounted.reports
  cases hcompleted : l.stream.completed with
  | false =>
    simp only [hcompleted, Bool.false_eq_true, if_false] at hreports
    omega
  | true =>
    rw [hcompleted, if_pos rfl] at hreports
    refine ⟨by omega, fun hone => ?_⟩
    have hnone : l.completing = none := by
      by_contra hsome
      rw [if_neg hsome] at hreports
      omega
    obtain ⟨hreceived, hfinal⟩ := haccounted.known hcompleted
    have hsettled := haccounted.settled hcompleted (by simp [hnone])
    refine ⟨hfinal, ?_⟩
    rw [haccounted.balanced.credit, hsettled.2, haccounted.balanced.known hreceived]

instance (l : ReceiveLink κ) (op : Op κ) : Decidable (l.KeepsCredit op) := by
  cases op <;> unfold KeepsCredit <;> infer_instance

def tenBytes : StreamFrame := { streamID := 4, offset := 0, data := List.replicate 10 7 }

/-- Four of ten bytes are read, and then the stream is cancelled by both sides. -/
def cancelledTwice (reliableSize : Nat) : List (Op Nat) :=
  [.streamFrame tenBytes none 0, .read 4 none, .cancelRead 7,
    .resetStreamFrame
      { streamID := 4, errorCode := 9, finalSize := 10, reliableSize := reliableSize } 0,
    .others 5 (.new 100 100), .finish]

/-- The run when the peer promises `reliableSize` bytes. -/
def cancelledLink (reliableSize : Nat) : Except ReceiveError (ReceiveLink Nat) :=
  (cancelledTwice reliableSize).foldlM step (new Nat 4 100 100 (.new 100 100))

/-- The whole stream is returned when what was promised was read. -/
theorem cancelledTwice_returns_finalSize :
    ∃ l, cancelledLink 4 = .ok l ∧ l.completions = 1 ∧
      l.stream.flowController.connection.bytesRead = 15 := by
  refine ⟨_, rfl, rfl, ?_⟩
  exact ((receiveLink_returns_finalSize 4 100 100 (.new 100 100)
    (reaches_foldlM (cancelledTwice 4) (by decide) rfl .refl)).2 rfl).2

/-- Six bytes are lost for the connection when the peer promises one byte more than was read. -/
theorem promisedAfterCancel_leaks :
    ∃ l, cancelledLink 5 = .ok l ∧ l.completions = 1 ∧ l.stream.finalOffset = 10 ∧
      l.othersRead = 5 ∧ l.stream.flowController.connection.bytesRead = 9 :=
  ⟨_, rfl, rfl, rfl, rfl, rfl⟩

end ReceiveLink

end MoqQuic.Quic
