import MoqQuic.Quic.SendStream.Changes

/-!
# MoqQuic.Quic.SendStream.Completion

When a send stream is completed.

The counter of outstanding frames counts the frames in flight. A reset without a reliable size
gives up on the STREAM frames: the counter is set to zero, and the frames that are still in
flight are ignored when they are acknowledged or lost. Whether they are ignored is asked when that
happens, from the reliable size at that time. So the counter is right as long as the reliable size
of a stream that was reset does not become positive again, by `SetReliableBoundary` or when
support for the extension is enabled late. Otherwise it may become negative.
-/

namespace MoqQuic.Quic

open Parse Outcome Machine

/-- Taking an element out by its position. -/
theorem perm_eraseIdx {α : Type} {as : List α} {i : Nat} {a : α} (h : as[i]? = some a) :
    List.Perm as (a :: as.eraseIdx i) := by
  obtain ⟨hi, rfl⟩ := List.getElem?_eq_some_iff.mp h
  exact (List.getElem_cons_eraseIdx_perm hi).symm

/-- The stream with another boundary. -/
abbrev SendStream.bounded (s : SendStream) (reliableSize : Nat) (supports : Bool) : SendStream :=
  { s with reliableSize := reliableSize, supportsResetStreamAt := supports }

namespace SendLink

variable {l l' : SendLink}

/-- The calls that leave the reliable size of a stream that was reset alone. The stream is not
shut down. -/
def KeepsBoundary (l : SendLink) : Op → Prop
  | .setReliableBoundary => l.stream.resetErr = none ∨ l.stream.supportsResetStreamAt = false
  | .enableResetStreamAt => l.stream.resetErr = none
  | .closeForShutdown => False
  | _ => True

instance (l : SendLink) (op : Op) : Decidable (KeepsBoundary l op) := by
  cases op <;> unfold KeepsBoundary <;> infer_instance

/-- A frame with the byte at the offset was acknowledged. -/
def AckedAt (l : SendLink) (offset : Nat) : Prop :=
  ∃ f ∈ l.acked, f.offset ≤ offset ∧ offset < f.stop

/-- **Everything that has to be delivered was acknowledged**: all data and the FIN, or, if the
stream was reset, the data below the reliable size and the last RESET_STREAM frame. -/
structure Delivered (l : SendLink) : Prop where
  all : l.stream.resetErr = none →
    l.stream.unsent = [] ∧ (∀ offset < l.stream.writeOffset, l.AckedAt offset) ∧
      ∃ f ∈ l.acked, f.fin = true
  reliable : l.stream.resetErr.isSome →
    (∀ offset < l.stream.reliableOffset, l.AckedAt offset) ∧
      ∃ r, l.resets.getLast? = some r ∧ r ∈ l.ackedResets

/-! ## the counter -/

/-- The frames in flight that are waited for: the RESET_STREAM frames with the current reliable
size, and the STREAM frames unless they are abandoned. -/
def awaited (reliableOffset : Nat) (abandoned : Bool) (resets : List ResetStreamFrame)
    (frames : List StreamFrame) : Nat :=
  resets.countP (fun r => decide (r.reliableSize = reliableOffset)) +
    if abandoned then 0 else frames.length

section

variable {reliableOffset i : Nat} {abandoned : Bool} {resets : List ResetStreamFrame}
  {frames : List StreamFrame} {r : ResetStreamFrame} {f : StreamFrame}

theorem awaited_nil : awaited reliableOffset false [] frames = frames.length := Nat.zero_add _

theorem awaited_emit :
    awaited reliableOffset false resets (frames ++ [f]) =
      awaited reliableOffset false resets frames + 1 := by
  simp [awaited, Nat.add_assoc]

theorem awaited_settle (hf : frames[i]? = some f) :
    awaited reliableOffset false resets frames =
      awaited reliableOffset false resets (frames.eraseIdx i) + 1 := by
  simp [awaited, (perm_eraseIdx hf).length_eq, Nat.add_assoc]

theorem awaited_emitReset (hr : r.reliableSize = reliableOffset) :
    awaited reliableOffset abandoned (resets ++ [r]) frames =
      awaited reliableOffset abandoned resets frames + 1 := by
  simp [awaited, hr, Nat.add_right_comm]

theorem awaited_settleReset (hr : resets[i]? = some r) (hsize : r.reliableSize = reliableOffset) :
    awaited reliableOffset abandoned resets frames =
      awaited reliableOffset abandoned (resets.eraseIdx i) frames + 1 := by
  simp [awaited, (perm_eraseIdx hr).countP_eq, hsize, Nat.add_right_comm]

theorem awaited_settleResetLate (hr : resets[i]? = some r)
    (hsize : r.reliableSize ≠ reliableOffset) :
    awaited reliableOffset abandoned resets frames =
      awaited reliableOffset abandoned (resets.eraseIdx i) frames := by
  simp [awaited, (perm_eraseIdx hr).countP_eq, hsize]

end

structure Counted (l : SendLink) : Prop where
  counter : l.stream.numOutstandingFrames =
    awaited l.stream.reliableOffset l.stream.abandoned l.resetsInFlight l.inFlight
  noResets : l.stream.resetErr = none →
    l.resetsInFlight = [] ∧ l.stream.queuedResetStreamFrame = none
  /-- only a stream that is abandoned has RESET_STREAM frames of an earlier reliable size -/
  sizes : l.stream.abandoned = false →
    ∀ r ∈ l.resetsInFlight, r.reliableSize = l.stream.reliableOffset
  queued : ∀ r, l.stream.queuedResetStreamFrame = some r → r.reliableSize = l.stream.reliableOffset
  last : l.stream.resetErr.isSome → l.stream.queuedResetStreamFrame = none →
    ∃ r, l.resets.getLast? = some r ∧
      (r ∈ l.resetsInFlight ∧ r.reliableSize = l.stream.reliableOffset ∨ r ∈ l.ackedResets)
  completions : l.completions = if l.stream.completed then 1 else 0

/-- A frame that is in flight is counted. -/
theorem Counted.not_overdrawn (hl : l.Counted) : ¬ l.Overdrawn := by
  have hcounter := hl.counter
  rintro ⟨hlow, ⟨habandoned, hinFlight⟩ | ⟨r, hr, hsize⟩⟩
  · have hpos := List.length_pos_of_ne_nil hinFlight
    simp only [awaited, habandoned, Bool.false_eq_true, if_false] at hcounter
    omega
  · have hpos : 0 < l.resetsInFlight.countP
        fun r => decide (r.reliableSize = l.stream.reliableOffset) :=
      List.countP_pos_iff.mpr ⟨r, hr, decide_eq_true hsize⟩
    rw [awaited] at hcounter
    omega

variable {s : SendStream}

theorem abandoned_false_of_none (h : s.resetErr = none) : s.abandoned = false := by
  rw [SendStream.abandoned, h]
  rfl

section

variable (hl : l.Counted)
include hl

theorem Counted.boundary {reliableSize : Nat} {supports : Bool}
    (h : l.stream.resetErr = none ∨
      (l.stream.bounded reliableSize supports).reliableOffset = l.stream.reliableOffset) :
    Counted { l with stream := l.stream.bounded reliableSize supports } := by
  rcases h with hnone | hsame
  · obtain ⟨hresets, hcontrol⟩ := hl.noResets hnone
    have hcounter := hl.counter
    rw [abandoned_false_of_none hnone, hresets, awaited_nil] at hcounter
    have habandoned : (l.stream.bounded reliableSize supports).abandoned = false :=
      abandoned_false_of_none hnone
    refine { hl with
      counter := ?_, sizes := fun _ r hr => ?_, queued := fun r hr => ?_, last := fun hsome => ?_ }
    · rw [habandoned, hresets, awaited_nil]
      exact hcounter
    · rw [hresets] at hr
      cases hr
    · rw [hcontrol] at hr
      cases hr
    · rw [hnone] at hsome
      cases hsome
  · have habandoned : (l.stream.bounded reliableSize supports).abandoned = l.stream.abandoned := by
      unfold SendStream.abandoned
      rw [hsame]
    refine { hl with counter := ?_, sizes := ?_, queued := ?_, last := ?_ }
    · rw [hsame, habandoned]
      exact hl.counter
    · rw [hsame, habandoned]
      exact hl.sizes
    · rw [hsame]
      exact hl.queued
    · rw [hsame]
      exact hl.last

theorem Counted.reset (hreset : l.stream.resetErr = none) (errorCode : Nat) :
    Counted { l with
      stream := { l.stream.afterReset errorCode with cancellationFlagged := true } } := by
  obtain ⟨hresets, hcontrol⟩ := hl.noResets hreset
  have hcounter := hl.counter
  rw [abandoned_false_of_none hreset, hresets, awaited_nil] at hcounter
  have hawaited : (if l.stream.reliableOffset = 0 then 0 else l.stream.numOutstandingFrames) =
      awaited l.stream.reliableOffset (decide (l.stream.reliableOffset = 0)) [] l.inFlight := by
    rw [hcounter]
    by_cases hzero : l.stream.reliableOffset = 0 <;> simp [awaited, hzero]
  refine { hl with
    counter := ?_, noResets := fun h => (by cases h), sizes := fun _ r hr => ?_,
    queued := fun r hr => ?_, last := fun _ h => by cases h }
  · rw [hresets]
    exact hawaited
  · rw [hresets] at hr
    cases hr
  · cases hr
    rfl

theorem Counted.stopSending (habandoned : l.stream.abandoned = false) (err : StreamError) :
    Counted { l with stream := l.stream.afterStop err } := by
  have hzero : SendStream.reliableOffset { l.stream with reliableSize := 0 } = 0 := by
    unfold SendStream.reliableOffset
    split <;> rfl
  have hlate : SendStream.abandoned { l.stream with reliableSize := 0, resetErr := some err } =
      true := decide_eq_true hzero
  -- the RESET_STREAM frames in flight are of the reliable size before
  have hnone : ∀ r ∈ l.resetsInFlight, r.reliableSize ≠ 0 := by
    intro r hr hsize
    rw [hl.sizes habandoned r hr] at hsize
    rw [SendStream.abandoned, Bool.and_eq_false_imp] at habandoned
    cases hreset : l.stream.resetErr with
    | none =>
      rw [(hl.noResets hreset).1] at hr
      cases hr
    | some err' => exact of_decide_eq_false (habandoned (by rw [hreset]; rfl)) hsize
  refine { hl with
    counter := ?_, noResets := fun h => (by cases h), sizes := fun h => ?_,
    queued := fun r hr => ?_, last := fun _ h => by cases h }
  · have hawaited : awaited 0 true l.resetsInFlight l.inFlight = 0 := by
      simp only [awaited, if_true, Nat.add_zero, List.countP_eq_zero, decide_eq_true_eq]
      exact hnone
    have hcounter : (0 : Int) = (awaited 0 true l.resetsInFlight l.inFlight : Nat) := by
      rw [hawaited]
      rfl
    rw [← hzero, ← hlate] at hcounter
    exact hcounter
  · have hcontra : true = false := hlate.symm.trans h
    cases hcontra
  · cases hr
    exact hzero.symm

theorem Counted.pop (habandoned : l.stream.abandoned = false) {f : StreamFrame}
    {fresh : List StreamFrame} (hs : l.stream.SameReset s) :
    Counted
      (l.emitted { s with numOutstandingFrames := s.numOutstandingFrames + 1 } f fresh) := by
  have hoffset : SendStream.reliableOffset
      { s with numOutstandingFrames := s.numOutstandingFrames + 1 } = l.stream.reliableOffset :=
    hs.reliableOffset
  have hlate : SendStream.abandoned { s with numOutstandingFrames := s.numOutstandingFrames + 1 } =
      l.stream.abandoned := hs.abandoned
  exact {
    counter := by
      have hcounter := hl.counter
      rw [habandoned] at hcounter
      rw [hoffset, hlate, habandoned, awaited_emit, hs.counter, hcounter]
      rfl
    noResets := by
      rw [hs.resetErr, hs.control]
      exact hl.noResets
    sizes := by
      rw [hoffset, hlate]
      exact hl.sizes
    queued := by
      rw [hoffset, hs.control]
      exact hl.queued
    last := by
      rw [hoffset, hs.resetErr, hs.control]
      exact hl.last
    completions := by
      rw [hs.completed]
      exact hl.completions }

theorem Counted.getControlFrame {f : ResetStreamFrame}
    (hf : l.stream.queuedResetStreamFrame = some f) :
    Counted { l with
      stream := { l.stream with
        numOutstandingFrames := l.stream.numOutstandingFrames + 1
        queuedResetStreamFrame := none }
      resetsInFlight := l.resetsInFlight ++ [f]
      resets := l.resets ++ [f] } := by
  have hsize := hl.queued f hf
  refine { hl with
    counter := ?_, noResets := fun h => ?_, sizes := fun habandoned r hr => ?_,
    queued := fun r hr => (by cases hr),
    last := fun _ _ => ⟨f, List.getLast?_concat, .inl ⟨?_, hsize⟩⟩ }
  · have hcounter : l.stream.numOutstandingFrames + 1 =
        awaited l.stream.reliableOffset l.stream.abandoned (l.resetsInFlight ++ [f]) l.inFlight := by
      rw [awaited_emitReset hsize, hl.counter]
      rfl
    exact hcounter
  · rw [show l.stream.queuedResetStreamFrame = none from (hl.noResets h).2] at hf
    cases hf
  · rcases List.mem_append.mp hr with hr | hr
    · exact hl.sizes habandoned r hr
    · cases List.mem_singleton.mp hr
      exact hsize
  · exact List.mem_append_right _ (List.mem_singleton_self f)

/-- A frame that is ignored leaves the wire. -/
theorem Counted.settleLate (habandoned : l.stream.abandoned = true)
    {inFlight acked : List StreamFrame} :
    Counted { l with inFlight := inFlight, acked := acked } := by
  refine { hl with counter := ?_ }
  have hcounter := hl.counter
  rw [habandoned] at hcounter ⊢
  exact hcounter

theorem Counted.settle {i : Nat} {f : StreamFrame}
    (hf : l.inFlight[i]? = some f) (habandoned : l.stream.abandoned = false)
    {queue acked : List StreamFrame} :
    Counted { l with
      stream := { l.stream with
        numOutstandingFrames := l.stream.numOutstandingFrames - 1, retransmissionQueue := queue }
      inFlight := l.inFlight.eraseIdx i
      acked := acked } := by
  have hcounter : l.stream.numOutstandingFrames - 1 =
      awaited l.stream.reliableOffset false l.resetsInFlight (l.inFlight.eraseIdx i) := by
    rw [hl.counter, habandoned, awaited_settle hf]
    omega
  rw [← habandoned] at hcounter
  exact { hl with counter := hcounter }

section

variable {i : Nat} {r : ResetStreamFrame} (hr : l.resetsInFlight[i]? = some r)
include hr

/-- A RESET_STREAM frame of another reliable size is ignored. -/
theorem Counted.settleResetLate (hsize : r.reliableSize ≠ l.stream.reliableOffset)
    {acked : List ResetStreamFrame} (hacked : ∀ r' ∈ l.ackedResets, r' ∈ acked) :
    Counted { l with resetsInFlight := l.resetsInFlight.eraseIdx i, ackedResets := acked } := by
  refine { hl with
    counter := hl.counter.trans (congrArg Int.ofNat (awaited_settleResetLate hr hsize))
    noResets := fun h => ?_
    sizes := fun h r' hr' => hl.sizes h r' (List.mem_of_mem_eraseIdx hr')
    last := fun hsome hnone => ?_ }
  · rw [(hl.noResets h).1] at hr
    cases hr
  · obtain ⟨r', hlast, hr'⟩ := hl.last hsome hnone
    refine ⟨r', hlast, ?_⟩
    rcases hr' with ⟨hmem, hcurrent⟩ | hmem
    · rcases List.mem_cons.mp ((perm_eraseIdx hr).mem_iff.mp hmem) with rfl | hmem
      · exact absurd hcurrent hsize
      · exact .inl ⟨hmem, hcurrent⟩
    · exact .inr (hacked r' hmem)

section

variable (hsize : r.reliableSize = l.stream.reliableOffset)

include hsize

theorem Counted.counter_settleReset :
    l.stream.numOutstandingFrames - 1 = awaited l.stream.reliableOffset l.stream.abandoned
      (l.resetsInFlight.eraseIdx i) l.inFlight := by
  rw [hl.counter, awaited_settleReset hr hsize]
  omega

theorem Counted.ackReset :
    Counted { l with
      stream := { l.stream with numOutstandingFrames := l.stream.numOutstandingFrames - 1 }
      resetsInFlight := l.resetsInFlight.eraseIdx i
      ackedResets := l.ackedResets ++ [r] } := by
  refine { hl with
    counter := hl.counter_settleReset hr hsize
    noResets := fun h => ?_
    sizes := fun h r' hr' => hl.sizes h r' (List.mem_of_mem_eraseIdx hr')
    last := fun hsome hnone => ?_ }
  · rw [show l.resetsInFlight = [] from (hl.noResets h).1] at hr
    cases hr
  · obtain ⟨r', hlast, hr'⟩ := hl.last hsome hnone
    refine ⟨r', hlast, ?_⟩
    rcases hr' with ⟨hmem, hcurrent⟩ | hmem
    · rcases List.mem_cons.mp ((perm_eraseIdx hr).mem_iff.mp hmem) with rfl | hmem
      · exact .inr (List.mem_append_right _ (List.mem_singleton_self _))
      · exact .inl ⟨hmem, hcurrent⟩
    · exact .inr (List.mem_append_left _ hmem)

theorem Counted.loseReset :
    Counted { l with
      stream := { l.stream with
        numOutstandingFrames := l.stream.numOutstandingFrames - 1
        queuedResetStreamFrame := some r }
      resetsInFlight := l.resetsInFlight.eraseIdx i } := by
  refine { hl with
    counter := hl.counter_settleReset hr hsize
    noResets := fun h => ?_
    sizes := fun h r' hr' => hl.sizes h r' (List.mem_of_mem_eraseIdx hr')
    queued := fun r' hr' => ?_
    last := fun _ h => by cases h }
  · rw [show l.resetsInFlight = [] from (hl.noResets h).1] at hr
    cases hr
  · cases hr'
    exact hsize

end

end

theorem Counted.change (h : Change KeepsBoundary l l') : l'.Counted := by
  cases h with
  | signal | start | buffer | giveBack | finish | close | widen => exact { hl with }
  | setReliableBoundary hG =>
    refine hl.boundary (hG.imp id fun h => ?_)
    unfold SendStream.reliableOffset
    rw [h]
    rfl
  | reset errorCode hG hshutdown hreset => exact hl.reset hreset errorCode
  | enableResetStreamAt hG => exact hl.boundary (.inl hG)
  | shutdown hG hshutdown hopen => exact hG.elim
  | stopSending errorCode hG hshutdown habandoned err => exact hl.stopSending habandoned err
  | pop s f hshutdown habandoned hpops => exact hl.pop habandoned hpops.sameReset
  | getControlFrame f hf => exact hl.getControlFrame hf
  | ackLate i f hf habandoned => exact hl.settleLate habandoned
  | ack i f hf habandoned => exact hl.settle hf habandoned
  | loseLate i f hf habandoned => exact hl.settleLate habandoned
  | drop i f hf habandoned hreset hbeyond => exact hl.settle hf habandoned
  | requeue i f f' hf habandoned hcut => exact hl.settle hf habandoned
  | ackResetLate i r hr hsize =>
    exact hl.settleResetLate hr hsize fun r' h => List.mem_append_left _ h
  | ackReset i r hr hsize => exact hl.ackReset hr hsize
  | loseResetLate i r hr hsize => exact hl.settleResetLate hr hsize fun _ h => h
  | loseReset i r hr hsize => exact hl.loseReset hr hsize

end

/-! ## what has to be delivered -/

/-- The frame has the byte at an offset, or the FIN. -/
def Bears (f : StreamFrame) : Option Nat → Prop
  | some offset => f.offset ≤ offset ∧ offset < f.stop
  | none => f.fin = true

theorem Bears.split {f : StreamFrame} {x : Option Nat} (h : Bears f x) {n : Nat}
    (hn : n ≤ f.data.length) : Bears (f.front n) x ∨ Bears (f.behind n) x := by
  cases x with
  | none => exact .inr h
  | some offset =>
    simp only [Bears, StreamFrame.stop, StreamFrame.front, StreamFrame.behind, List.length_take,
      List.length_drop] at h ⊢
    omega

/-- What is below the cut stays. -/
theorem Bears.cut {f : StreamFrame} {offset n : Nat} (h : Bears f (some offset)) (hn : offset < n) :
    ∃ f', SendStream.cutFrame n f = some f' ∧ Bears f' (some offset) := by
  obtain ⟨hle, hlt⟩ := h
  unfold SendStream.cutFrame
  rw [if_neg (by omega)]
  split
  · refine ⟨_, rfl, hle, ?_⟩
    simp only [StreamFrame.stop, List.length_take] at hlt ⊢
    omega
  · exact ⟨f, rfl, hle, hlt⟩

/-- The frames that were acknowledged or still may be. -/
def Live (l : SendLink) (f : StreamFrame) : Prop :=
  f ∈ l.acked ∨ f ∈ l.inFlight ∨ f ∈ l.stream.retransmissionQueue

def Kept (l : SendLink) (x : Option Nat) : Prop := ∃ f, l.Live f ∧ Bears f x

/-- What was sent and has to be delivered. -/
def Needed (s : SendStream) : Option Nat → Prop
  | some offset => offset < s.writeOffset ∧ (s.resetErr.isSome → offset < s.reliableOffset)
  | none => s.finSent = true ∧ s.resetErr = none

theorem Kept.mono {x : Option Nat} (h : l.Kept x) (hlive : ∀ f, l.Live f → l'.Live f) :
    l'.Kept x := by
  obtain ⟨f, hf, hbears⟩ := h
  exact ⟨f, hlive f hf, hbears⟩

/-- Nothing that has to be delivered is lost. -/
structure Covered (l : SendLink) : Prop where
  kept : l.stream.abandoned = false → ∀ x, Needed l.stream x → l.Kept x
  finSent : l.stream.finSent = true → l.stream.finishedWriting = true ∧ l.stream.unsent = []
  boundary : l.stream.resetErr = none →
    l.stream.reliableSize ≤ l.stream.writeOffset + l.stream.bufferedLen
  reliable : l.stream.reliableOffset ≤ l.stream.writeOffset + l.stream.bufferedLen

theorem reliableOffset_le (s : SendStream) : s.reliableOffset ≤ s.reliableSize := by
  unfold SendStream.reliableOffset
  split <;> omega

section

variable (hl : l.Covered)
include hl

theorem Covered.buffer {f : StreamFrame} (hne : f.data ≠ []) (hdata : f.data = l.stream.unsent) :
    Covered { l with
      stream := { l.stream with nextFrame := some f, dataForWriting := [] }
      writing := none } := by
  have hlen : l.stream.bufferedLen ≤ f.data.length := by
    rw [hdata, SendStream.unsent, List.length_append, SendStream.bufferedLen]
    cases l.stream.nextFrame <;> simp [StreamFrame.dataLen]
  have hbuffered : SendStream.bufferedLen { l.stream with nextFrame := some f, dataForWriting := [] } =
      f.data.length := rfl
  refine { hl with finSent := fun hfin => ?_, boundary := fun h => ?_, reliable := ?_ }
  · exact absurd (hdata.trans (hl.finSent hfin).2) hne
  · have hboundary := hl.boundary h
    rw [hbuffered]
    dsimp only
    omega
  · have hreliable := hl.reliable
    rw [hbuffered]
    exact hreliable.trans (Nat.add_le_add_left hlen _)

theorem Covered.reset (hb : l.stream.Buffered) (hreset : l.stream.resetErr = none)
    (errorCode : Nat) : Covered { l with
      stream := { l.stream.afterReset errorCode with cancellationFlagged := true } } := by
  refine { hl with
    kept := fun _ x hx => ?_
    finSent := fun hfin => ?_
    boundary := fun h => by cases h
    reliable := ?_ }
  · cases x with
    | none =>
      have hnone := hx.2
      cases hnone
    | some offset =>
      have hbelow : offset < l.stream.reliableOffset := hx.2 rfl
      obtain ⟨f, hf, hbears⟩ := hl.kept (abandoned_false_of_none hreset) (some offset)
        ⟨hx.1, fun hsome => by
          rw [hreset] at hsome
          cases hsome⟩
      rcases hf with hf | hf | hf
      · exact ⟨f, .inl hf, hbears⟩
      · exact ⟨f, .inr (.inl hf), hbears⟩
      · obtain ⟨f', hcut, hbears'⟩ := hbears.cut hbelow
        exact ⟨f', .inr (.inr (List.mem_filterMap.mpr ⟨f, hf, hcut⟩)), hbears'⟩
  · obtain ⟨hclosed, hunsent⟩ := hl.finSent hfin
    rw [SendStream.unsent_eq_nil_iff hb] at hunsent
    refine ⟨hclosed, ?_⟩
    simp [SendStream.unsent, hunsent.1, hunsent.2]
  · -- what is left of the buffered frame reaches up to the reliable size
    have hreliable := hl.reliable
    have hgoal : l.stream.reliableOffset ≤ l.stream.writeOffset +
        ((l.stream.nextFrame.bind (SendStream.cutFrame l.stream.reliableOffset)).map
          StreamFrame.dataLen).getD 0 := by
      rw [SendStream.bufferedLen] at hreliable
      cases hnext : l.stream.nextFrame with
      | none =>
        rw [hnext] at hreliable
        exact hreliable
      | some f =>
        rw [hnext] at hreliable
        have hoffset := (hb f hnext).1
        simp only [Option.map_some, Option.getD_some, StreamFrame.dataLen] at hreliable
        rw [Option.bind_some, SendStream.cutFrame, hoffset, StreamFrame.dataLen]
        split
        · next h => exact Nat.le_add_right_of_le h
        · split
          · simp only [Option.map_some, Option.getD_some, StreamFrame.dataLen, List.length_take]
            omega
          · exact hreliable
    exact hgoal

/-- The reliable size changes, but a stream that was reset stays abandoned. -/
theorem Covered.moveBoundary {reliableSize : Nat} {supports : Bool}
    (hsize : l.stream.resetErr = none → reliableSize ≤ l.stream.writeOffset + l.stream.bufferedLen)
    (hreset : l.stream.resetErr = none ∨
      (l.stream.bounded reliableSize supports).reliableOffset = 0) :
    Covered { l with stream := l.stream.bounded reliableSize supports } := by
  have hle := reliableOffset_le (l.stream.bounded reliableSize supports)
  by_cases hnone : l.stream.resetErr = none
  · refine { hl with
      kept := fun _ x hx => ?_, boundary := hsize, reliable := hle.trans (hsize hnone) }
    refine hl.kept (abandoned_false_of_none hnone) x ?_
    cases x with
    | none => exact hx
    | some offset =>
      refine ⟨hx.1, fun hsome => ?_⟩
      rw [hnone] at hsome
      cases hsome
  · have hzero := hreset.resolve_left hnone
    have hlate : (l.stream.bounded reliableSize supports).abandoned = true := by
      rw [SendStream.abandoned, hzero]
      simpa [Option.isSome_iff_ne_none] using hnone
    refine { hl with
      kept := fun h => ?_, boundary := hsize, reliable := hzero.trans_le (Nat.zero_le _) }
    have hcontra : true = false := hlate.symm.trans h
    cases hcontra

theorem Covered.stopSending (err : StreamError) :
    Covered { l with stream := l.stream.afterStop err } := by
  have hzero : SendStream.reliableOffset { l.stream with reliableSize := 0 } = 0 :=
    Nat.le_zero.mp (reliableOffset_le { l.stream with reliableSize := 0 })
  refine { hl with
    kept := fun h => ?_
    finSent := fun hfin => ?_
    boundary := fun h => by cases h
    reliable := hzero.trans_le (Nat.zero_le _) }
  · have hlate : true = false := (decide_eq_true hzero).symm.trans h
    cases hlate
  · obtain ⟨hclosed, hunsent⟩ := hl.finSent hfin
    exact ⟨hclosed, (List.append_eq_nil_iff.mp hunsent).2⟩

/-! ### frames on the wire -/

/-- A frame of the queue is emitted again, whole or in part. -/
theorem Covered.resend {counter : Int} {f : StreamFrame}
    {queue fresh : List StreamFrame}
    (hkeep : ∀ g ∈ l.stream.retransmissionQueue, ∀ x, Bears g x →
      Bears f x ∨ ∃ g' ∈ queue, Bears g' x) :
    Covered (l.emitted
      { l.stream with numOutstandingFrames := counter, retransmissionQueue := queue } f fresh) := by
  refine { hl with kept := fun habandoned x hx => ?_ }
  obtain ⟨g, hg, hbears⟩ := hl.kept habandoned x hx
  rcases hg with hg | hg | hg
  · exact ⟨g, .inl hg, hbears⟩
  · exact ⟨g, .inr (.inl (List.mem_append_left _ hg)), hbears⟩
  · rcases hkeep g hg x hbears with hbears | ⟨g', hg', hbears⟩
    · exact ⟨f, .inr (.inl (List.mem_append_right _ (List.mem_singleton_self f))), hbears⟩
    · exact ⟨g', .inr (.inr hg'), hbears⟩

theorem Covered.pop (habandoned : l.stream.abandoned = false) {f : StreamFrame}
    {fresh : List StreamFrame} (hpops : l.stream.Pops s (some f)) :
    Covered
      (l.emitted { s with numOutstandingFrames := s.numOutstandingFrames + 1 } f fresh) := by
  have hlive : ∀ {s' : SendStream}, s'.retransmissionQueue = l.stream.retransmissionQueue →
      ∀ g, l.Live g → Live (l.emitted s' f fresh) g := by
    intro s' hqueue g hg
    rcases hg with hg | hg | hg
    · exact .inl hg
    · exact .inr (.inl (List.mem_append_left _ hg))
    · exact .inr (.inr (hqueue.symm ▸ hg))
  have hnew : ∀ {s' : SendStream}, Live (l.emitted s' f fresh) f :=
    .inr (.inl (List.mem_append_right _ (List.mem_singleton_self f)))
  cases hpops with
  | again f rest hqueue =>
    refine hl.resend fun g hg x hbears => ?_
    rw [hqueue] at hg
    rcases List.mem_cons.mp hg with rfl | hg
    · exact .inl hbears
    · exact .inr ⟨g, hg, hbears⟩
  | part f rest n hqueue hpos hle =>
    refine hl.resend fun g hg x hbears => ?_
    rw [hqueue] at hg
    rcases List.mem_cons.mp hg with rfl | hg
    · rcases hbears.split hle with hfront | hbehind
      · exact .inl hfront
      · exact .inr ⟨_, List.mem_cons_self, hbehind⟩
    · exact .inr ⟨g, List.mem_cons_of_mem _ hg, hbears⟩
  | fin hempty hdata hnext hclosed hended hreset =>
    have hunsent : l.stream.unsent = [] := by simp [SendStream.unsent, hdata, hnext]
    refine { hl with kept := fun _ x hx => ?_, finSent := fun _ => ⟨hclosed, hunsent⟩ }
    cases x with
    | none => exact ⟨_, hnew, rfl⟩
    | some offset => exact (hl.kept habandoned (some offset) hx).mono (hlive rfl)
  | new s f hsends =>
    have hunsent := hsends.unsent
    have hlen := hsends.bufferedLen
    have hfin := hsends.fin
    obtain ⟨nextFrame, dataForWriting, writeSignal, flowController, rfl⟩ := hsends.same
    refine { hl with
      kept := fun _ x hx => ?_, finSent := fun h => ?_, boundary := fun h => ?_, reliable := ?_ }
    · cases x with
      | none =>
        rcases Bool.or_eq_true_iff.mp hx.1 with hsent | hlast
        · exact (hl.kept habandoned none ⟨hsent, hx.2⟩).mono (hlive rfl)
        · exact ⟨f, hnew, hlast⟩
      | some offset =>
        by_cases hold : offset < l.stream.writeOffset
        · exact (hl.kept habandoned (some offset) ⟨hold, hx.2⟩).mono (hlive rfl)
        · have hnext : offset < l.stream.writeOffset + f.data.length := hx.1
          refine ⟨f, hnew, ?_⟩
          rw [Bears, StreamFrame.stop, hsends.offset]
          omega
    · rcases Bool.or_eq_true_iff.mp h with hsent | hlast
      · rw [(hl.finSent hsent).2] at hunsent
        exact absurd (List.append_eq_nil_iff.mp hunsent.symm).1 hsends.nonempty
      · rw [hlast, eq_comm, Bool.and_eq_true, Bool.and_eq_true] at hfin
        exact ⟨hfin.1.1, List.isEmpty_iff.mp hfin.1.2⟩
    · have hboundary := hl.boundary h
      refine hboundary.trans ?_
      rw [Nat.add_assoc]
      exact Nat.add_le_add_left hlen _
    · refine hl.reliable.trans ?_
      rw [Nat.add_assoc]
      exact Nat.add_le_add_left hlen _

/-- A frame leaves the wire: what it bears and is needed is acknowledged, or queued. -/
theorem Covered.settle {i : Nat} {f : StreamFrame}
    (hf : l.inFlight[i]? = some f) {counter : Int} {queue acked : List StreamFrame}
    (hacked : ∀ g ∈ l.acked, g ∈ acked)
    (hqueue : ∀ g ∈ l.stream.retransmissionQueue, g ∈ queue)
    (hkeep : ∀ x, Bears f x → Needed l.stream x → f ∈ acked ∨ ∃ f' ∈ queue, Bears f' x) :
    Covered { l with
      stream := { l.stream with numOutstandingFrames := counter, retransmissionQueue := queue }
      inFlight := l.inFlight.eraseIdx i
      acked := acked } := by
  refine { hl with kept := fun habandoned x hx => ?_ }
  obtain ⟨g, hg, hbears⟩ := hl.kept habandoned x hx
  rcases hg with hg | hg | hg
  · exact ⟨g, .inl (hacked g hg), hbears⟩
  · rcases List.mem_cons.mp ((perm_eraseIdx hf).mem_iff.mp hg) with rfl | hg
    · rcases hkeep x hbears hx with hg | ⟨f', hf', hbears'⟩
      · exact ⟨g, .inl hg, hbears⟩
      · exact ⟨f', .inr (.inr hf'), hbears'⟩
    · exact ⟨g, .inr (.inl hg), hbears⟩
  · exact ⟨g, .inr (.inr (hqueue g hg)), hbears⟩

/-- A frame that is ignored leaves the wire. -/
theorem Covered.settleLate (habandoned : l.stream.abandoned = true)
    {inFlight acked : List StreamFrame} :
    Covered { l with inFlight := inFlight, acked := acked } := by
  refine { hl with kept := fun h => ?_ }
  rw [habandoned] at h
  cases h

theorem Covered.change (hs : l.Sound) (h : Change KeepsBoundary l l') : l'.Covered := by
  cases h with
  | signal | finish | widen | getControlFrame | ackResetLate | ackReset | loseResetLate
  | loseReset => exact { hl with }
  | start p hp hwriting hreset hshutdown hopen hdata =>
    refine { hl with finSent := fun hfin => ?_ }
    have hclosed := (hl.finSent hfin).1
    rw [hopen] at hclosed
    cases hclosed
  | buffer f hoffset hne hdata => exact hl.buffer hne hdata
  | giveBack =>
    refine { hl with finSent := fun hfin => ?_ }
    obtain ⟨hclosed, hunsent⟩ := hl.finSent hfin
    refine ⟨hclosed, List.append_eq_nil_iff.mpr ⟨?_, rfl⟩⟩
    exact (List.append_eq_nil_iff.mp hunsent).1
  | close hshutdown => exact { hl with finSent := fun hfin => ⟨rfl, (hl.finSent hfin).2⟩ }
  | setReliableBoundary hG =>
    refine hl.moveBoundary (fun _ => Nat.le_refl _) (hG.imp id fun h => ?_)
    unfold SendStream.reliableOffset
    rw [h]
    rfl
  | reset errorCode hG hshutdown hreset => exact hl.reset hs.buffered hreset errorCode
  | enableResetStreamAt hG => exact hl.moveBoundary hl.boundary (.inl hG)
  | shutdown hG hshutdown hopen => exact hG.elim
  | stopSending errorCode hG hshutdown habandoned err => exact hl.stopSending err
  | pop s f hshutdown habandoned hpops => exact hl.pop habandoned hpops
  | ackLate i f hf habandoned => exact hl.settleLate habandoned
  | ack i f hf habandoned =>
    exact hl.settle hf (fun g hg => List.mem_append_left _ hg) (fun _ hg => hg)
      fun x _ _ => .inl (List.mem_append_right _ (List.mem_singleton_self f))
  | loseLate i f hf habandoned => exact hl.settleLate habandoned
  | drop i f hf habandoned hreset hbeyond =>
    refine hl.settle hf (fun _ hg => hg) (fun _ hg => hg) fun x hbears hx => ?_
    cases x with
    | none =>
      rw [hx.2] at hreset
      cases hreset
    | some offset =>
      have hbelow := hx.2 hreset
      have hle := hbears.1
      omega
  | requeue i f f' hf habandoned hcut =>
    refine hl.settle hf (fun _ hg => hg) (fun g hg => List.mem_append_left _ hg)
      fun x hbears hx => .inr ⟨_, List.mem_append_right _ (List.mem_singleton_self _), ?_⟩
    rcases hcut with ⟨-, rfl⟩ | ⟨hreset, hcut⟩
    · cases x <;> exact hbears
    · cases x with
      | none =>
        rw [hx.2] at hreset
        cases hreset
      | some offset =>
        obtain ⟨g, hg, hbears⟩ := hbears.cut (hx.2 hreset)
        cases hg.symm.trans hcut
        exact hbears

end

/-! ## completion -/

/-- A stream that is completed waits for nothing. -/
theorem Completes.delivered (h : Completes l l') (hc : l.Counted) (hv : l.Covered) :
    l'.Delivered := by
  have hcounter := hc.counter
  have hnothing : awaited l.stream.reliableOffset l.stream.abandoned l.resetsInFlight
      l.inFlight = 0 := by
    have houtstanding := h.outstanding
    omega
  rw [awaited, Nat.add_eq_zero_iff] at hnothing
  obtain ⟨hresets, hframes⟩ := hnothing
  -- everything that was sent is acknowledged, unless it is given up
  have hacked : l.stream.abandoned = false → ∀ x, Needed l.stream x → ∃ f ∈ l.acked, Bears f x := by
    intro habandoned x hx
    rw [habandoned] at hframes
    obtain ⟨f, hf, hbears⟩ := hv.kept habandoned x hx
    rcases hf with hf | hf | hf
    · exact ⟨f, hf, hbears⟩
    · rw [List.eq_nil_of_length_eq_zero hframes] at hf
      cases hf
    · rw [h.queue] at hf
      cases hf
  rw [h.result]
  constructor
  · intro hnone
    have hfin : l.stream.finSent = true := by
      refine h.ended.resolve_right fun hsome => ?_
      rw [show l.stream.resetErr = none from hnone] at hsome
      cases hsome
    have hacked := hacked (abandoned_false_of_none hnone)
    refine ⟨(hv.finSent hfin).2, fun offset hoffset => ?_, hacked none ⟨hfin, hnone⟩⟩
    refine hacked (some offset) ⟨hoffset, fun hsome => ?_⟩
    rw [show l.stream.resetErr = none from hnone] at hsome
    cases hsome
  · intro hsome
    have hreliable := hv.reliable
    rw [h.buffered, Nat.add_zero] at hreliable
    refine ⟨fun offset hoffset => ?_, ?_⟩
    · have hbelow : offset < l.stream.reliableOffset := hoffset
      refine hacked ?_ (some offset) ⟨hbelow.trans_le hreliable, fun _ => hbelow⟩
      rw [SendStream.abandoned, decide_eq_false (by omega), Bool.and_false]
    · obtain ⟨r, hlast, ⟨hmem, hsize⟩ | hmem⟩ := hc.last hsome h.control
      · rw [List.countP_eq_zero] at hresets
        exact absurd (decide_eq_true hsize) (hresets r hmem)
      · exact ⟨r, hlast, hmem⟩

theorem Counted.completes (hl : l.Counted) (h : Completes l l') : l'.Counted := by
  rw [h.result]
  refine { hl with completions := ?_ }
  have hcompletions := hl.completions
  rw [h.new] at hcompletions
  rw [hcompletions]
  rfl

theorem Covered.completes (hl : l.Covered) (h : Completes l l') : l'.Covered := by
  rw [h.result]
  exact { hl with }

variable (streamID sendWindow : Nat)

theorem counted_new (connection : ConnectionFlowController)
    (supports : Bool) : Counted (new streamID sendWindow connection supports) where
  counter := rfl
  noResets := fun _ => ⟨rfl, rfl⟩
  sizes := fun _ r hr => by cases hr
  queued := fun r hr => by cases hr
  last := fun h => by cases h
  completions := rfl

theorem covered_new (connection : ConnectionFlowController)
    (supports : Bool) : Covered (new streamID sendWindow connection supports) where
  kept := by
    intro _ x hx
    cases x with
    | none =>
      have hfin := hx.1
      cases hfin
    | some offset => exact absurd hx.1 (Nat.not_lt_zero offset)
  finSent := fun h => by cases h
  boundary := fun _ => Nat.zero_le _
  reliable := (reliableOffset_le _).trans (Nat.zero_le _)

theorem Change.completions {G : SendLink → Op → Prop} (h : Change G l l') :
    l'.completions = l.completions := by
  cases h <;> rfl

/-- **A stream is completed once, when everything is delivered**, and its counter of outstanding
frames does not become negative: in every state that is reached by calls that leave the reliable
size of a stream that was reset alone. -/
theorem sendLink_completes_once (streamID sendWindow : Nat)
    (connection : ConnectionFlowController) (supports : Bool)
    (h : Reaches step KeepsBoundary (new streamID sendWindow connection supports) l) :
    l.completions ≤ 1 ∧ (∀ op, l.step op ≠ .error .numOutstandingFramesNegative) ∧
      ∀ op l', KeepsBoundary l op → l.step op = .ok l' → l.completions < l'.completions →
        l'.Delivered := by
  obtain ⟨hs, hc, hv⟩ := reaches_invariant (I := fun l => l.Counted ∧ l.Covered)
    ⟨sound_new streamID sendWindow connection supports,
      counted_new streamID sendWindow connection supports,
      covered_new streamID sendWindow connection supports⟩
    (fun _ _ hs hl h => ⟨hl.1.change h, hl.2.change hs h⟩)
    (fun _ _ _ hl h => ⟨hl.1.completes h, hl.2.completes h⟩) h
  refine ⟨?_, fun op hpanic => ?_, fun op l' hG hstep hmore => ?_⟩
  · rw [hc.completions]
    split <;> omega
  · have hholds : Holds l.CounterPanic (Changes (fun _ _ => True) l) (l.step op) :=
      changes_step hs trivial
    rw [hpanic] at hholds
    exact hc.not_overdrawn (hholds rfl)
  · obtain ⟨l₁, hchanges, hends⟩ := (changes_step hs hG).of_ok hstep
    have hl₁ := changes_invariant
      (I := fun l₁ => (l₁.Counted ∧ l₁.Covered) ∧ l₁.completions = l.completions)
      (fun _ _ hs hl h => ⟨⟨hl.1.1.change h, hl.1.2.change hs h⟩, h.completions.trans hl.2⟩)
      hs ⟨⟨hc, hv⟩, rfl⟩ hchanges
    rcases hends with rfl | hcompletes
    · rw [hl₁.2.2] at hmore
      exact absurd hmore (Nat.lt_irrefl _)
    · exact hcompletes.delivered hl₁.2.1.1 hl₁.2.1.2

/-- A stream with a reliable part is reset; a frame of it is lost, and all is acknowledged. -/
def resetAndDelivered : List Op :=
  [.write [1, 2, 3] false false, .setReliableBoundary, .popStreamFrame 50, .cancelWrite 7,
    .getControlFrame, .loseFrame 0, .popStreamFrame 50, .ackReset 0]

theorem resetAndDelivered_completes_once :
    ∃ l l', resetAndDelivered.foldlM step (new 4 10 { ConnectionFlowController.new 0 0 with
        sendWindow := 100 } true) = .ok l ∧
      l.step (.ackFrame 0) = .ok l' ∧ l.completions < l'.completions ∧ l'.Delivered := by
  refine ⟨_, _, rfl, rfl, by decide, ?_⟩
  exact (sendLink_completes_once 4 10
    { ConnectionFlowController.new 0 0 with sendWindow := 100 } true
    (reaches_foldlM resetAndDelivered (by decide) rfl .refl)).2.2 (.ackFrame 0) _ trivial rfl
      (by decide)

/-- The boundary is set after the stream was reset; then the frame in flight counts again. -/
def boundaryAfterReset : List Op :=
  [.write [1, 2, 3] false false, .popStreamFrame 50, .cancelWrite 7, .setReliableBoundary,
    .ackFrame 0]

theorem boundaryAfterReset_panics :
    boundaryAfterReset.foldlM step (new 4 10 { ConnectionFlowController.new 0 0 with
        sendWindow := 100 } true) = .error .numOutstandingFramesNegative := rfl

end SendLink

end MoqQuic.Quic
