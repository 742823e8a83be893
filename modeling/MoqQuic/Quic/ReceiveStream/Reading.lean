import MoqQuic.Quic.FrameSorter.Bounds
import MoqQuic.Quic.ReceiveStream

/-!
# MoqQuic.Quic.ReceiveStream.Reading

A rule for `Read`.

`ReadRule` lists what has to be shown of each thing that a `Read` does: that it keeps `P`
while it goes on, and that `Q` holds of the stream and of the outcome when it returns or waits.
The induction over the loop is done here once, and with it that the loop gets to its end in the
rounds it has: a round copies data, or takes an empty frame from the queue.
-/

namespace MoqQuic.Quic

open Parse Outcome

namespace ReceiveStream

variable {κ : Type} {s : ReceiveStream κ} {len : Nat} {progress : ReadProgress}

/-- What is left of the current frame. -/
def rest (s : ReceiveStream κ) : Bytes := (s.currentFrame.getD []).drop s.readPosInFrame

theorem needsFrame_iff : s.needsFrame = true ↔ s.rest = [] := by
  rw [needsFrame, rest, frameLen, List.drop_eq_nil_iff]
  cases s.currentFrame <;> simp

theorem rest_of_none (h : s.currentFrame = none) : s.rest = [] := by
  rw [rest, h]
  exact List.drop_nil

theorem copyFrame_data (s : ReceiveStream κ) (len : Nat) (progress : ReadProgress) :
    (s.copyFrame len progress).2.data =
      progress.data ++ s.rest.take (len - progress.data.length) := rfl

/-- The flow controller after `m` bytes of the stream were read. -/
def readFlow (s : ReceiveStream κ) (m : Nat) : StreamFlow :=
  let flow := if s.isRemoteCancellationEffective then s.flowController
    else (s.flowController.addBytesRead m).2.2
  if s.cancelledRemotely = true ∧ s.readPos + m ≥ s.reliableSize then flow.abandon else flow

theorem copyFrame_eq (s : ReceiveStream κ) (len : Nat) (progress : ReadProgress) :
    (s.copyFrame len progress).1 = { s with
      flowController := s.readFlow (s.rest.take (len - progress.data.length)).length
      queuedMaxStreamData := (s.copyFrame len progress).1.queuedMaxStreamData
      readPosInFrame := s.readPosInFrame + (s.rest.take (len - progress.data.length)).length
      readPos := s.readPos + (s.rest.take (len - progress.data.length)).length } := by
  simp only [copyFrame, readFlow, rest, isRemoteCancellationEffective, Bool.and_eq_true,
    decide_eq_true_eq]
  split <;> split <;> rfl

/-- The stream after the last byte was read. -/
def readEof (s : ReceiveStream κ) : ReceiveStream κ :=
  { s with
    currentFrame := none
    frameQueue := { s.frameQueue with called := s.frameQueue.called ++ s.currentFrameDone.toList }
    errorRead := true }

/-- The current frame was read, and it is the last one. -/
def atEof (s : ReceiveStream κ) : Prop := s.readPosInFrame ≥ s.frameLen ∧ s.currentFrameIsLast = true

/-- What `isNewlyCompleted` finds. -/
theorem isNewlyCompleted_cases (s : ReceiveStream κ) :
    s.isNewlyCompleted = (false, s) ∨
      s.isNewlyCompleted = (true, { s with completed := true }) ∧ s.completed = false ∧
        s.finalOffset ≠ MaxByteCount ∧ (s.cancelledLocally = true ∨ s.errorRead = true) := by
  rw [isNewlyCompleted]
  split
  · exact .inl rfl
  rename_i hcompleted
  split
  · exact .inl rfl
  rename_i hfinal
  split
  · exact .inr ⟨rfl, by simpa using hcompleted, hfinal, .inl ‹_›⟩
  split
  · exact .inr ⟨rfl, by simpa using hcompleted, hfinal, .inr ‹_›⟩
  · exact .inl rfl

/-! ## frames in the queue -/

/-- The number of frames in the queue. -/
def queued (s : ReceiveStream κ) : Nat := s.frameQueue.queue.keys.length

theorem le_rounds (s : ReceiveStream κ) (len : Nat) (progress : ReadProgress) :
    len - progress.data.length + s.queued ≤ s.rounds len :=
  Nat.add_le_add_right (Nat.sub_le _ _) _

theorem queued_dequeueNextFrame (s : ReceiveStream κ) :
    Holds (fun _ => True) (fun s' => s'.queued ≤ s.queued ∧
      (s'.currentFrame = none ∨ s'.queued < s.queued)) s.dequeueNextFrame := by
  rw [dequeueNextFrame]
  exact s.frameQueue.keys_pop.bind fun _ hr => hr

/-! ## the rule -/

/-- What is shown of a `Read`: `P` holds while it reads, `F` once there is a frame to read from or
none can be dequeued, `Q` of what it comes to, and it fails only with `E`. -/
structure ReadRule (E : SorterPanic → Prop) (len : Nat) (deadline : Option Nat)
    (P F : ReceiveStream κ → ReadProgress → Prop) (Q : ReceiveStream κ → ReadOutcome → Prop) :
    Prop where
  dequeue : ∀ {s progress}, P s progress → s.rest = [] → progress.data.length < len →
    Holds E (fun s' => F s' progress) s.dequeueNextFrame
  keep : ∀ {s progress}, P s progress → s.rest ≠ [] → F s progress
  weaken : ∀ {s progress}, F s progress → P s progress
  noMore : ∀ {s progress}, F s progress → s.currentFrame = none → progress.data ≠ [] →
    Q s (.returned progress (if s.closeForShutdownErr then some .shutdown else none))
  shutdown : ∀ {s progress}, P s progress → s.closeForShutdownErr = true →
    Q s (.returned progress (some .shutdown))
  cancelled : ∀ {s progress}, P s progress → s.isCancelled = true →
    Q { s with errorRead := true } (.returned progress (some (.cancelled s.cancelErr)))
  expired : ∀ {s progress}, P s progress → expired deadline progress = true →
    Q s (.returned progress (some .deadline))
  wait : ∀ {s progress}, F s progress → progress.data = [] → 0 < len → s.currentFrame = none →
    s.currentFrameIsLast = false → Q s .waits
  behind : ∀ {s progress}, F s progress → s.readPosInFrame > s.frameLen →
    Q s (.returned progress (some (.readPosBehindFrame s.readPosInFrame s.frameLen)))
  copy : ∀ {s progress}, F s progress → progress.data.length < len → s.isCancelled = false →
    ¬ (s.copyFrame len progress).1.atEof →
      P (s.copyFrame len progress).1 (s.copyFrame len progress).2
  eof : ∀ {s progress}, F s progress → progress.data.length < len → s.isCancelled = false →
    (s.copyFrame len progress).1.atEof →
      Q (s.copyFrame len progress).1.readEof
        (.returned (s.copyFrame len progress).2 (some .eof))
  full : ∀ {s progress}, P s progress → len ≤ progress.data.length →
    s.isRemoteCancellationEffective = false → Q s (.returned progress none)

namespace ReadRule

variable {E : SorterPanic → Prop} {deadline : Option Nat}
  {P F : ReceiveStream κ → ReadProgress → Prop} {Q : ReceiveStream κ → ReadOutcome → Prop}

/-- What a round comes to. -/
def RoundTo (P : ReceiveStream κ → ReadProgress → Prop) (Q : ReceiveStream κ → ReadOutcome → Prop)
    (len : Nat) (s : ReceiveStream κ) (progress : ReadProgress) :
    ReceiveStream κ × ReadRound → Prop
  | (s', .last outcome) => Q s' outcome
  | (s', .next progress') => P s' progress' ∧ s'.queued = s.queued ∧ s.currentFrame ≠ none ∧
      progress'.data = progress.data ++ s.rest.take (len - progress.data.length)

section

variable (rule : ReadRule E len deadline P F Q)
include rule

theorem round (h : F s progress)
    (hlen : progress.data.length < len) (hnone : s.currentFrame = none → progress.data = []) :
    RoundTo P Q len s progress (s.readRound len deadline progress) := by
  rw [readRound]
  split
  · exact rule.shutdown (rule.weaken h) ‹_›
  split
  · exact rule.cancelled (rule.weaken h) ‹_›
  rename_i hcancelled
  split
  · exact rule.expired (rule.weaken h) ‹_›
  split
  · rename_i hwait
    exact rule.wait h (hnone hwait.1) (Nat.zero_lt_of_lt hlen) hwait.1 hwait.2
  rename_i hframe
  split
  · exact rule.behind h ‹_›
  simp only
  split
  · rename_i heof
    exact rule.eof h hlen (by simpa using hcancelled) heof
  · rename_i hnext
    refine ⟨rule.copy h hlen (by simpa using hcancelled) hnext, ?_, fun hnil => ?_,
      copyFrame_data s len progress⟩
    · rw [copyFrame_eq]
      rfl
    · -- without a frame there is only the end of the stream
      rw [copyFrame_eq] at hnext
      refine hnext ⟨?_, by simpa [hnil] using hframe⟩
      simp only [frameLen, hnil]
      exact Nat.zero_le _

theorem readEnd (h : P s progress) (hlen : len ≤ progress.data.length) :
    Q (s.readEnd progress).1 (s.readEnd progress).2 := by
  rw [ReceiveStream.readEnd]
  split
  · rename_i heffective
    exact rule.cancelled h (by simp [isCancelled, heffective])
  · rename_i heffective
    exact rule.full h hlen (by simpa using heffective)

/-- The loop, when it has enough rounds. -/
theorem loop : ∀ (rounds : Nat) {s : ReceiveStream κ}
    {progress : ReadProgress}, P s progress → len - progress.data.length + s.queued ≤ rounds →
      Holds E (fun r => Q r.1 r.2) (readLoop len deadline rounds s progress)
  | 0, s, progress, h, hrounds => rule.readEnd h (by omega)
  | rounds + 1, s, progress, h, hrounds => by
    rw [readLoop]
    split
    swap
    · exact rule.readEnd h (by omega)
    rename_i hlen
    -- the frame to read from, and what the round will gain
    have hframe : Holds E (fun s' => F s' progress ∧ s'.queued ≤ s.queued ∧
        (s'.currentFrame = none ∨ s'.rest ≠ [] ∨ s'.queued < s.queued)) s.nextFrame := by
      rw [nextFrame]
      split
      · rename_i hneeds
        have hP := rule.dequeue h (needsFrame_iff.mp hneeds) hlen
        cases hs' : s.dequeueNextFrame with
        | error e =>
          rw [hs'] at hP
          exact hP
        | ok s' =>
          obtain ⟨hle, hless⟩ := s.queued_dequeueNextFrame.of_ok hs'
          exact ⟨hP.of_ok hs', hle, hless.imp_right .inr⟩
      · rename_i hneeds
        have hrest : s.rest ≠ [] := fun hrest => hneeds (needsFrame_iff.mpr hrest)
        exact ⟨rule.keep h hrest, le_rfl, .inr (.inl hrest)⟩
    refine hframe.bind fun s' ⟨hP, hle, hgain⟩ => ?_
    split
    · rename_i hstop
      exact rule.noMore hP hstop.1 hstop.2
    rename_i hgo
    have hround := rule.round hP hlen fun hnone => by
      by_contra hne
      exact hgo ⟨hnone, hne⟩
    cases hr : s'.readRound len deadline progress with
    | mk s'' result =>
      rw [hr] at hround
      cases result with
      | last outcome => exact hround
      | next progress' =>
        obtain ⟨hP', hqueued, hsome, hdata⟩ := hround
        refine loop rounds hP' ?_
        have hgrow : progress'.data.length =
            progress.data.length + min (len - progress.data.length) s'.rest.length := by
          rw [hdata, List.length_append, List.length_take]
        obtain hnone | hrest | hless := hgain
        · exact absurd hnone hsome
        · have hpos := List.length_pos_of_ne_nil hrest
          omega
        · omega

/-- **`Read`** up to its first wait. -/
theorem readImpl (h : ¬ (s.currentFrameIsLast = true ∧ s.currentFrame = none) → P s {})
    (heof : s.currentFrameIsLast = true → s.currentFrame = none →
      Q { s with errorRead := true } (.returned {} (some .eof))) :
    Holds E (fun r => Q r.1 r.2) (s.readImpl len deadline) := by
  rw [ReceiveStream.readImpl]
  split
  · rename_i hend
    exact heof hend.1 hend.2
  rename_i hend
  split
  · exact rule.cancelled (h hend) ‹_›
  split
  · exact rule.shutdown (h hend) ‹_›
  · exact rule.loop (s.rounds len) (h hend) (le_rounds s len {})

/-- **`Read`** after a wait. -/
theorem wakeRead (h : P s {}) (hrest : s.rest = [])
    (hlen : 0 < len) : Holds E (fun r => Q r.1 r.2) (s.wakeRead len deadline) := by
  rw [ReceiveStream.wakeRead]
  refine (rule.dequeue h hrest hlen).bind fun s' hs' => ?_
  have hround := rule.round hs' hlen fun _ => rfl
  cases hr : s'.readRound len deadline {} with
  | mk s'' result =>
    rw [hr] at hround
    cases result with
    | last outcome => exact hround
    | next progress =>
      exact rule.loop (s''.rounds len) hround.1 (le_rounds s'' len progress)

end

end ReadRule

end ReceiveStream

end MoqQuic.Quic
