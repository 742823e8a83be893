import MoqQuic.Quic.ReceiveStream.InOrder
import MoqQuic.Quic.ReceiveStream.Link

/-!
# MoqQuic.Quic.ReceiveStream.Delivery

A receive stream delivers the stream that the peer sent.

The frames are ranges of one stream `S` of `n` bytes. They arrive in any order and as often as one
likes, and they may overlap; a frame with the FIN bit ends at `n`. `Read` and `Peek` are called in
between, with buffers of any size.

`InStep` ties the state of the stream to the frames that were received and to the bytes that were
read. It is kept by every step, and it says what the next `Read` or `Peek` can return.
-/

namespace MoqQuic.Quic

open Machine Outcome Parse

namespace ReceiveLink

open ReceiveStream (Peeks PeeksTo ReadOutcomeOn peeks_nil)

variable {κ : Type} {S : Nat → UInt8} {n : Nat} {before : Bytes} {l : ReceiveLink κ}

def received (l : ReceiveLink κ) : Set Nat :=
  {x | ∃ f ∈ l.frames, f.offset ≤ x ∧ x < f.offset + f.dataLen}

/-- A frame with the FIN bit was received. -/
def FinReceived (l : ReceiveLink κ) : Prop := ∃ f ∈ l.frames, f.fin = true

/-- The frame is a range of the stream `S` of `n` bytes. -/
def Sends (S : Nat → UInt8) (n : Nat) (f : StreamFrame) : Prop :=
  f.data = slice S f.offset f.dataLen ∧ f.offset + f.dataLen ≤ n ∧
    (f.fin = true → f.offset + f.dataLen = n)

/-- The peer sends the stream, and nobody cancels it. -/
def Receives (S : Nat → UInt8) (n : Nat) (_ : ReceiveLink κ) : Op κ → Prop
  | .streamFrame frame _ _ => Sends S n frame
  | .resetStreamFrame .. | .cancelRead .. | .closeForShutdown => False
  | .read .. | .peek .. | .wake .. | .setReadDeadline | .getControlFrame .. | .finish
  | .others .. => True

/-- What is known of a value that a call returned. -/
def Returned (S : Nat → UInt8) (n : Nat) (l : ReceiveLink κ) : ReceiveOutput → Prop
  | .read _ err => err = some .eof → l.delivered = slice S 0 n ∧ l.FinReceived
  | .peek len data err => Peeks S l.received l.stream len data err

/-- The stream stands where the bytes that were read end. Those that were read `before` are still
there. -/
structure InStep (S : Nat → UInt8) (n : Nat) (before : Bytes) (l : ReceiveLink κ) : Prop where
  inOrder : l.stream.InOrder S l.received
  delivered : l.delivered = slice S 0 l.stream.readPos
  since : before <+: l.delivered
  within : ∀ x ∈ l.received, x < n
  fin : l.FinReceived → l.stream.finalOffset = n
  noFin : ¬ l.FinReceived → l.stream.finalOffset = MaxByteCount
  /-- a `Read` waits for the next byte, or there is a signal -/
  reading : ∀ len, l.waiting = some (.read len) → 0 < len ∧ l.stream.currentFrame = none ∧
    l.stream.currentFrameIsLast = false ∧ (l.stream.readSignal = true ∨
      l.stream.readPos ∉ l.received ∧ l.stream.readPos < l.stream.finalOffset)
  peeking : ∀ len, l.waiting = some (.peek len) → 0 < len ∧ (l.stream.readSignal = true ∨
    ∃ x, l.stream.readPos ≤ x ∧ x < l.stream.readPos + len ∧ x ∉ l.received)
  output : ∀ output, l.output = some output → l.Returned S n output

theorem InStep.length_delivered (h : InStep S n before l) : l.delivered.length = l.stream.readPos := by
  rw [h.delivered, length_slice]

/-- A part of the stream that was received from its start on ends where the stream ends, if it
reaches the final offset. -/
theorem InStep.ends (h : InStep S n before l) {p : Nat} (hp : ∀ x, x < p → x ∈ l.received)
    (hle : l.stream.finalOffset ≤ p) : p = n ∧ l.FinReceived := by
  have hpn : p ≤ n := by
    by_contra hlt
    exact lt_irrefl n (h.within n (hp n (not_le.mp hlt)))
  have hfin : l.FinReceived := by
    by_contra hno
    rw [h.noFin hno] at hle
    have hpos : 0 < p := lt_of_lt_of_le (by decide) hle
    have hbound := h.inOrder.sorter.bound (p - 1) (hp (p - 1) (by omega))
    omega
  exact ⟨hpn.antisymm (h.fin hfin ▸ hle), hfin⟩

theorem InStep.read_received (h : InStep S n before l) {x : Nat} (hx : x < l.stream.readPos) :
    x ∈ l.received := h.inOrder.mem_of_lt (by omega)

/-- A method completes the stream at most. -/
theorem InStep.complete {s : ReceiveStream κ} (h : InStep S n before { l with stream := s })
    (completing : Completing) :
    InStep S n before ({ l with stream := s.isNewlyCompleted.2 }.complete s.isNewlyCompleted.1
      completing) := by
  obtain hsame | ⟨hcompletes, -⟩ := s.isNewlyCompleted_cases
  · rw [hsame]
    exact h
  · rw [hcompletes]
    refine { h with inOrder := { h.inOrder with }, output := fun output houtput => ?_ }
    have hreturned := h.output output houtput
    cases output with
    | read data err => exact hreturned
    | peek len data err => exact { hreturned with }

/-! ## frames -/

theorem received_append (l : ReceiveLink κ) (f : StreamFrame) :
    received { l with frames := l.frames ++ [f] } =
      l.received ∪ FrameSorter.range f.offset (f.offset + f.dataLen) := by
  ext x
  simp only [received, List.mem_append, List.mem_singleton, Set.mem_union, Set.mem_ofPred_eq]
  constructor
  · rintro ⟨g, hg | rfl, hin⟩
    · exact .inl ⟨g, hg, hin⟩
    · exact .inr hin
  · rintro (⟨g, hg, hin⟩ | hin)
    · exact ⟨g, .inl hg, hin⟩
    · exact ⟨f, .inr rfl, hin⟩

theorem finReceived_append (l : ReceiveLink κ) (f : StreamFrame) :
    FinReceived { l with frames := l.frames ++ [f] } ↔ l.FinReceived ∨ f.fin = true := by
  simp only [FinReceived, List.mem_append, List.mem_singleton]
  grind

theorem InStep.streamFrame (h : InStep S n before l) (hout : l.output = none) {frame : StreamFrame}
    (hsends : Sends S n frame) (putBack : Option κ) (now : Time) :
    Holds (fun _ => True) (InStep S n before) (l.handle (.streamFrame frame putBack now)) := by
  obtain ⟨hdata, hle, hend⟩ := hsends
  rw [handle, ReceiveStream.handleStreamFrame]
  cases hr : l.stream.handleStreamFrameImpl frame putBack now with
  | error e => trivial
  | ok r =>
    obtain ⟨err, s⟩ := r
    cases err with
    | some err => trivial
    | none =>
      have hfinal : l.stream.finalOffset ≠ MaxByteCount → frame.fin = true →
          frame.offset + frame.dataLen = l.stream.finalOffset := by
        intro hknown hfin
        rw [hend hfin, h.fin (by_contra fun hno => hknown (h.noFin hno))]
      obtain ⟨hs, hread, hsignal, hframe, hlast, hoffset⟩ :=
        h.inOrder.handleStreamFrameImpl hdata hfinal hr
      rw [← received_append] at hs
      refine InStep.complete (l := { l with frames := l.frames ++ [frame] })
        { inOrder := hs
          delivered := hread ▸ h.delivered
          since := h.since
          within := fun x hx => ?_
          fin := fun hfin => ?_
          noFin := fun hno => ?_
          reading := fun len hlen => ?_
          peeking := fun len hlen => ?_
          output := by simp [hout] } .abandon
      · obtain hx | hx := (received_append l frame).subset hx
        · exact h.within x hx
        · exact hx.2.trans_le hle
      · simp only [hoffset]
        split
        · exact hend ‹_›
        · rename_i hfalse
          exact h.fin (((finReceived_append l frame).mp hfin).resolve_right hfalse)
      · have hno' := mt (finReceived_append l frame).mpr hno
        simp only [hoffset]
        rw [if_neg fun hfin => hno' (.inr hfin)]
        exact h.noFin fun hfin => hno' (.inl hfin)
      · obtain ⟨hpos, hnone, hnot, -⟩ := h.reading len hlen
        exact ⟨hpos, hframe.trans hnone, hlast.trans hnot, .inl hsignal⟩
      · exact ⟨(h.peeking len hlen).1, .inl hsignal⟩

/-! ## reading -/

section Reading

variable {s : ReceiveStream κ} {len : Nat} {deadline : Option Nat}
  {outcome : ReceiveStream.ReadOutcome}

section

variable (h : InStep S n before l)

include h

/-- The stream has moved on, and nobody waits. -/
theorem InStep.moved {delivered : Bytes} (hs : s.InOrder S l.received)
    (hsource : l.stream.SameSource s) (hsince : before <+: delivered)
    (hdelivered : delivered = slice S 0 s.readPos) : InStep S n before { l with
      stream := s, waiting := none, delivered := delivered, output := none } where
  inOrder := hs
  delivered := hdelivered
  since := hsince
  within := h.within
  fin hfin := hsource.finalOffset.trans (h.fin hfin)
  noFin hno := hsource.finalOffset.trans (h.noFin hno)
  reading := by simp
  peeking := by simp
  output := by simp

theorem InStep.afterRead (hout : l.output = none)
    (hreads : ReadOutcomeOn S l.received l.delivered len deadline l.stream s outcome) :
    InStep S n before (l.afterRead len (s, outcome)) := by
  cases outcome with
  | returned progress err =>
    refine InStep.complete (l := { l with
      waiting := none
      delivered := l.delivered ++ progress.data
      output := some (.read progress.data err) })
      { h.moved hreads.inOrder hreads.source (h.since.trans (List.prefix_append _ _)) hreads.data with
        output := fun output houtput => ?_ } .report
    obtain rfl := Option.some.inj houtput
    intro heof
    obtain ⟨hread, hfin⟩ := h.ends (p := s.readPos)
      (fun x hx => hreads.inOrder.mem_of_lt (by omega))
      (hreads.source.finalOffset ▸ hreads.eof heof)
    exact ⟨hread ▸ hreads.data, hfin⟩
  | waits =>
    obtain ⟨hs, hsource, hbefore, hlen, hnone, hlast, hnot, hlt⟩ := hreads
    refine
      { h.moved hs hsource h.since hbefore with
        reading := fun len' hlen' => ?_
        peeking := by simp [ReceiveLink.afterRead]
        output := by simp [ReceiveLink.afterRead, hout] }
    obtain rfl := ReceiveCall.read.inj (Option.some.inj hlen')
    exact ⟨hlen, hnone, hlast, .inr ⟨hnot, hlt⟩⟩

theorem InStep.readPos_le {progress : ReceiveStream.ReadProgress}
    {err : Option ReadError}
    (hreads : ReceiveStream.ReadsOn S l.received l.delivered len deadline l.stream s progress err) :
    s.readPos = l.delivered.length + progress.data.length ∧ s.readPos ≤ n := by
  have hlength := congrArg List.length hreads.data
  rw [List.length_append, length_slice] at hlength
  refine ⟨hlength.symm, ?_⟩
  by_contra hlt
  exact lt_irrefl n (h.within n (hreads.inOrder.mem_of_lt (by omega)))

omit h in
/-- A `Read` that returns nothing has come to the end of the stream. -/
theorem eof_of_nil {progress : ReceiveStream.ReadProgress} {err : Option ReadError}
    (hreads : ReceiveStream.ReadsOn S l.received l.delivered len deadline l.stream s progress err)
    (hnil : progress.data = []) (hlen : 0 < len) (hdeadline : deadline ≠ some 0) :
    err = some .eof := by
  obtain rfl | rfl | ⟨rfl, hexpired⟩ := hreads.cases
  · obtain hne | hzero := hreads.ok rfl
    · exact absurd hnil hne
    · omega
  · rfl
  · cases deadline with
    | none => cases hexpired
    | some m =>
      rw [ReceiveStream.expired, hnil, decide_eq_true_eq] at hexpired
      exact absurd (congrArg some (Nat.le_zero.mp hexpired)) hdeadline

section

variable (hreads : ReadOutcomeOn S l.received l.delivered len deadline l.stream s outcome)

include hreads

/-- After the last byte, a `Read` returns `io.EOF`. -/
theorem InStep.reads_eof (hall : l.delivered.length = n) (hfin : l.FinReceived) (hlen : 0 < len)
    (hdeadline : deadline ≠ some 0) :
    ∃ progress, outcome = .returned progress (some .eof) ∧ progress.data = [] := by
  cases outcome with
  | waits =>
    obtain ⟨-, hsource, hbefore, -, -, -, -, hlt⟩ := hreads
    rw [hsource.finalOffset, h.fin hfin, ← hall, hbefore, length_slice] at hlt
    exact absurd hlt (lt_irrefl _)
  | returned progress err =>
    obtain ⟨hread, hle⟩ := h.readPos_le hreads
    have hnil : progress.data = [] := List.length_eq_zero_iff.mp (by omega)
    rw [eof_of_nil hreads hnil hlen hdeadline]
    exact ⟨progress, rfl, hnil⟩

/-- A `Read` returns data if the next byte was received. -/
theorem InStep.reads_next
    (hnext : l.delivered.length ∈ l.received) (hlen : 0 < len) (hdeadline : deadline ≠ some 0) :
    ∃ progress err, outcome = .returned progress err ∧ progress.data ≠ [] := by
  cases outcome with
  | waits =>
    obtain ⟨-, -, hbefore, -, -, -, hnot, -⟩ := hreads
    rw [hbefore, length_slice] at hnext
    exact absurd hnext hnot
  | returned progress err =>
    refine ⟨progress, err, rfl, fun hnil => ?_⟩
    obtain ⟨hread, hle⟩ := h.readPos_le hreads
    rw [hnil, List.length_nil, Nat.add_zero] at hread
    obtain rfl := eof_of_nil hreads hnil hlen hdeadline
    obtain ⟨hend, -⟩ := h.ends (p := s.readPos) (fun x hx => hreads.inOrder.mem_of_lt (by omega))
      (hreads.source.finalOffset ▸ hreads.eof rfl)
    have hlt := h.within _ hnext
    omega

end

end

end Reading

/-! ## peeking -/

section Peeking

variable {s : ReceiveStream κ} {len : Nat} {expired : Bool} {outcome : ReceiveStream.PeekOutcome}

theorem InStep.afterPeek (h : InStep S n before l) (hout : l.output = none)
    (hpeeks : PeeksTo S l.received len expired l.stream s outcome) :
    InStep S n before (l.afterPeek len (s, outcome)) := by
  have hmoved := h.moved hpeeks.inOrder hpeeks.source h.since (hpeeks.readPos ▸ h.delivered)
  cases outcome with
  | returned data err =>
    refine { hmoved with output := fun output houtput => ?_ }
    obtain rfl := Option.some.inj houtput
    exact hpeeks.outcome.1
  | waits =>
    refine
      { hmoved with
        reading := by simp [ReceiveLink.afterPeek]
        peeking := fun len' hlen' => ?_
        output := by simp [ReceiveLink.afterPeek, hout] }
    obtain rfl := ReceiveCall.peek.inj (Option.some.inj hlen')
    exact ⟨hpeeks.outcome.1, .inr hpeeks.outcome.2⟩

/-- What a `Peek` returned is the next part of the stream, and it ends with the stream if it is less
than what was asked for. -/
theorem InStep.peeks_ends (h : InStep S n before l) {data : Bytes}
    (hpeeks : Peeks S l.received l.stream len data (some .eof)) :
    l.delivered.length + data.length = n ∧ l.FinReceived := by
  rw [h.length_delivered]
  refine h.ends (fun x hx => ?_) (hpeeks.eof rfl).1
  by_cases hread : x < l.stream.readPos
  · exact h.read_received hread
  · exact hpeeks.received x (not_lt.mp hread) hx

/-- A `Peek` returns what was asked for if it was received. -/
theorem InStep.peeks_all (h : InStep S n before l)
    (hpeeks : PeeksTo S l.received len false l.stream s outcome)
    (hall : ∀ x, l.delivered.length ≤ x → x < l.delivered.length + len → x ∈ l.received) :
    outcome = .returned (slice S l.delivered.length len) none := by
  rw [h.length_delivered] at hall ⊢
  rw [← hpeeks.readPos] at hall ⊢
  cases outcome with
  | waits =>
    obtain ⟨-, x, hle, hlt, hnot⟩ := hpeeks.outcome
    exact absurd (hall x hle hlt) hnot
  | returned data err =>
    obtain ⟨hdata, rfl | rfl | ⟨-, hexpired⟩⟩ := hpeeks.outcome
    · rw [← hdata.ok rfl]
      exact congrArg (ReceiveStream.PeekOutcome.returned · none) hdata.content
    · -- the stream does not end before a byte that was received
      obtain ⟨hle, hlt⟩ := hdata.eof rfl
      have hmem := hall _ (Nat.le_add_right _ _) (Nat.add_lt_add_left hlt _)
      obtain ⟨hend, -⟩ := h.ends (fun x hx => by
        by_cases hread : x < s.readPos
        · exact hpeeks.inOrder.mem_of_lt (by omega)
        · exact hdata.received x (not_lt.mp hread) hx) (hpeeks.source.finalOffset ▸ hle)
      exact absurd (h.within _ hmem) (by omega)
    · cases hexpired

end Peeking

/-! ## the steps -/

section

variable (h : InStep S n before l) (hout : l.output = none)
include h hout

/-- A call that waited goes on, and its signal is consumed. -/
theorem InStep.resume (timer : Bool) :
    InStep S n before { l with
      stream := if timer then l.stream else { l.stream with readSignal := false }
      waiting := none } := by
  cases timer with
  | true => exact { h with reading := by simp, peeking := by simp, output := by simp [hout] }
  | false =>
    exact { h with
      inOrder := { h.inOrder with }
      reading := by simp
      peeking := by simp
      output := by simp [hout] }

/-- What a `Read` that waited comes to. -/
theorem InStep.wakeRead {len : Nat}
    (hwaiting : l.waiting = some (.read len)) (timer : Bool) (deadline : Option Nat)
    (hwake : l.stream.readSignal = true ∨ timer = true) : ∃ s outcome,
      l.wake timer deadline = .ok (l.afterRead len (s, outcome)) ∧
      ReadOutcomeOn S l.received l.delivered len deadline
        (if timer then l.stream else { l.stream with readSignal := false }) s outcome := by
  obtain ⟨hlen, hnone, hlast, -⟩ := h.reading len hwaiting
  have hs := h.resume hout timer
  obtain ⟨⟨s, outcome⟩, hok, hreads⟩ := (hs.inOrder.wakeRead hs.delivered hlen
    (by cases timer <;> exact hnone) (by cases timer <;> exact hlast) deadline).exists_ok
  refine ⟨s, outcome, ?_, hreads⟩
  simp only [ReceiveLink.wake, if_pos hwake, hwaiting, hok]
  rfl

/-- What a `Peek` that waited comes to. -/
theorem InStep.wakePeek {len : Nat}
    (hwaiting : l.waiting = some (.peek len)) (timer : Bool) (deadline : Option Nat)
    (hwake : l.stream.readSignal = true ∨ timer = true) : ∃ s outcome,
      l.wake timer deadline = .ok (l.afterPeek len (s, outcome)) ∧
      PeeksTo S l.received len (decide (deadline = some 0))
        (if timer then l.stream else { l.stream with readSignal := false }) s outcome := by
  obtain ⟨hlen, -⟩ := h.peeking len hwaiting
  have hs := h.resume hout timer
  obtain ⟨⟨s, outcome⟩, hok, hpeeks⟩ :=
    (hs.inOrder.wakePeek hlen (decide (deadline = some 0))).exists_ok
  refine ⟨s, outcome, ?_, hpeeks⟩
  simp only [ReceiveLink.wake, if_pos hwake, hwaiting, hok]
  rfl

theorem InStep.wake (timer : Bool) (deadline : Option Nat) :
    Holds (fun _ => True) (InStep S n before) (l.wake timer deadline) := by
  by_cases hwake : l.stream.readSignal = true ∨ timer = true
  · cases hwaiting : l.waiting with
    | none =>
      simp only [ReceiveLink.wake, if_pos hwake, hwaiting]
      exact h
    | some call =>
      cases call with
      | read len =>
        obtain ⟨s, outcome, hok, hreads⟩ := h.wakeRead hout hwaiting timer deadline hwake
        rw [hok]
        exact (h.resume hout timer).afterRead hout hreads
      | peek len =>
        obtain ⟨s, outcome, hok, hpeeks⟩ := h.wakePeek hout hwaiting timer deadline hwake
        rw [hok]
        exact (h.resume hout timer).afterPeek hout hpeeks
  · rw [ReceiveLink.wake, if_neg hwake]
    exact h

end

/-- What a `Read` comes to. -/
theorem InStep.read (h : InStep S n before l) (hwaiting : l.waiting = none) (len : Nat)
    (deadline : Option Nat) : ∃ s outcome,
      l.handle (.read len deadline) = .ok (l.afterRead len (s, outcome)) ∧
      ReadOutcomeOn S l.received l.delivered len deadline l.stream s outcome := by
  obtain ⟨⟨s, outcome⟩, hok, hreads⟩ :=
    (h.inOrder.readImpl h.delivered len deadline).exists_ok
  refine ⟨s, outcome, ?_, hreads⟩
  simp only [ReceiveLink.handle, hwaiting, Option.isSome_none, Bool.false_eq_true, if_false, hok]
  rfl

/-- What a `Peek` comes to. -/
theorem InStep.peek (h : InStep S n before l) (hwaiting : l.waiting = none) {len : Nat} (hlen : 0 < len)
    (expired : Bool) : ∃ s outcome,
      l.handle (.peek len expired) = .ok (l.afterPeek len (s, outcome)) ∧
      PeeksTo S l.received len expired l.stream s outcome := by
  obtain ⟨⟨s, outcome⟩, hok, hpeeks⟩ := (h.inOrder.peekRound hlen expired).exists_ok
  refine ⟨s, outcome, ?_, hpeeks⟩
  simp only [ReceiveLink.handle, hwaiting, Option.isSome_none, Bool.false_eq_true, false_and,
    if_false, if_neg hlen.ne', ReceiveStream.peek, hok]
  rfl

theorem getControlFrame_snd (s : ReceiveStream κ) (now : Time) (rtt : Duration)
    (allowed allowed' : Bool) : ∃ stopSending maxStreamData flow,
      (s.getControlFrame now rtt allowed allowed').2 = { s with
        queuedStopSending := stopSending
        queuedMaxStreamData := maxStreamData
        flowController := flow } := by
  rw [ReceiveStream.getControlFrame]
  split
  · exact ⟨_, _, _, rfl⟩
  split
  · exact ⟨_, _, _, rfl⟩
  · exact ⟨_, _, _, rfl⟩

theorem InStep.handle (h : InStep S n before l) (hout : l.output = none) {op : Op κ}
    (hreceives : Receives S n l op) : Holds (fun _ => True) (InStep S n before) (l.handle op) := by
  cases op with
  | streamFrame frame putBack now => exact h.streamFrame hout hreceives putBack now
  | read len deadline =>
    cases hwaiting : l.waiting with
    | none =>
      obtain ⟨s, outcome, hok, hreads⟩ := h.read hwaiting len deadline
      rw [hok]
      exact h.afterRead hout hreads
    | some call =>
      rw [ReceiveLink.handle, if_pos (by rw [hwaiting]; rfl)]
      exact h
  | peek len expired =>
    rcases Nat.eq_zero_or_pos len with rfl | hlen
    · rw [ReceiveLink.handle, if_neg (by simp), if_pos rfl]
      refine { h with output := fun output houtput => ?_ }
      obtain rfl := Option.some.inj houtput
      exact peeks_nil (fun _ => rfl) (by simp)
    · cases hwaiting : l.waiting with
      | none =>
        obtain ⟨s, outcome, hok, hpeeks⟩ := h.peek hwaiting hlen expired
        rw [hok]
        exact h.afterPeek hout hpeeks
      | some call =>
        rw [ReceiveLink.handle, if_pos ⟨by rw [hwaiting]; rfl, hlen.ne'⟩]
        exact h
  | wake timer deadline => exact h.wake hout timer deadline
  | setReadDeadline =>
    exact { h with
      inOrder := { h.inOrder with }
      reading := fun len hlen => by
        obtain ⟨hpos, hnone, hlast, -⟩ := h.reading len hlen
        exact ⟨hpos, hnone, hlast, .inl rfl⟩
      peeking := fun len hlen => ⟨(h.peeking len hlen).1, .inl rfl⟩
      output := by simp [hout] }
  | getControlFrame now rtt allowed allowed' =>
    obtain ⟨stopSending, maxStreamData, flow, heq⟩ :=
      getControlFrame_snd l.stream now rtt allowed allowed'
    rw [ReceiveLink.handle, heq]
    exact { h with inOrder := { h.inOrder with }, output := by simp [hout] }
  | finish =>
    rw [ReceiveLink.handle, ReceiveLink.finish]
    split
    · exact h
    · exact { h with inOrder := { h.inOrder with }, output := by simp [hout] }
    · exact { h with output := by simp [hout] }
  | others m connection =>
    exact { h with inOrder := { h.inOrder with }, output := by simp [hout] }
  | resetStreamFrame | cancelRead | closeForShutdown => exact hreceives.elim

variable {l' : ReceiveLink κ}

theorem InStep.step (h : InStep S n before l) {op : Op κ} (hreceives : Receives S n l op)
    (hstep : l.step op = .ok l') : InStep S n before l' := by
  have h' : InStep S n before { l with output := none } := { h with output := by simp }
  have hreceives' : Receives S n { l with output := none } op := by
    cases op <;> exact hreceives
  exact (h'.handle rfl hreceives').of_ok hstep

theorem inStep_new (S : Nat → UInt8) (n streamID receiveWindow maxReceiveWindow : Nat)
    (connection : ConnectionFlowController) :
    InStep S n [] (new κ streamID receiveWindow maxReceiveWindow connection) where
  inOrder :=
    { sorter := by
        have hempty : received (new κ streamID receiveWindow maxReceiveWindow connection) = ∅ := by
          simp [received, new]
        rw [hempty]
        exact (Reassembly.good_init S).inv
      position := rfl
      content := rfl
      last := by simp [new, newReceiveStream]
      inFrame := fun _ => le_rfl
      remotely := rfl
      locally := rfl
      opened := rfl }
  delivered := rfl
  since := List.nil_prefix
  within := by simp [received, new]
  fin := by simp [FinReceived, new]
  noFin := fun _ => rfl
  reading := by simp [new]
  peeking := by simp [new]
  output := by simp [new]

/-! ## delivery -/

theorem slice_isPrefix (S : Nat → UInt8) (a : Nat) {m m' : Nat} (h : m ≤ m') :
    slice S a m <+: slice S a m' := by
  rw [← take_slice S h]
  exact List.take_prefix m _

/-- What `Read` and `Peek` return in a state of a run. -/
structure Delivers (S : Nat → UInt8) (n : Nat) (l : ReceiveLink κ) : Prop where
  /-- the bytes that were read are the start of the stream -/
  read : l.delivered <+: slice S 0 n
  /-- a `Read` returns data if the next byte was received -/
  next : l.waiting = none → l.delivered.length ∈ l.received → ∀ len deadline, 0 < len →
    deadline ≠ some 0 → ∃ l' data err, l.step (.read len deadline) = .ok l' ∧
      l'.output = some (.read data err) ∧ data ≠ []
  /-- `io.EOF` comes only with the last byte, and only after the FIN -/
  eof : ∀ data, l.output = some (.read data (some .eof)) → l.delivered = slice S 0 n ∧ l.FinReceived
  /-- the next `Read` returns it -/
  ended : l.delivered.length = n → l.FinReceived → l.waiting = none → ∀ len deadline, 0 < len →
    deadline ≠ some 0 → ∃ l', l.step (.read len deadline) = .ok l' ∧
      l'.output = some (.read [] (some .eof))
  /-- a `Read` that waits has a signal then, and it returns it -/
  woken : l.delivered.length = n → l.FinReceived → ∀ len, l.waiting = some (.read len) →
    l.stream.readSignal = true ∧ ∀ timer deadline, deadline ≠ some 0 →
      ∃ l', l.step (.wake timer deadline) = .ok l' ∧ l'.output = some (.read [] (some .eof))
  /-- a `Peek` returns what was asked for if it was received -/
  peeks : l.waiting = none → ∀ len,
    (∀ x, l.delivered.length ≤ x → x < l.delivered.length + len → x ∈ l.received) →
      ∃ l', l.step (.peek len false) = .ok l' ∧
        l'.output = some (.peek len (slice S l.delivered.length len) none)
  /-- without an error it returned all that was asked for, and `io.EOF` comes with the rest of the
  stream -/
  peeked : ∀ len data err, l.output = some (.peek len data err) →
    (err = none → data.length = len) ∧
      (err = some .eof → l.delivered ++ data = slice S 0 n ∧ l.FinReceived)
  /-- what a `Peek` returned is what the `Read`s return that follow -/
  ahead : ∀ len data err, l.output = some (.peek len data err) →
    ∀ l', Reaches step (Receives S n) l l' → ∃ more, l'.delivered = l.delivered ++ more ∧
      (more <+: data ∨ data <+: more)
  /-- a `Peek` reads nothing and uses no credit -/
  keeps : ∀ op l', (∃ len expired, op = .peek len expired) ∨
      (∃ len timer deadline, l.waiting = some (.peek len) ∧ op = .wake timer deadline) →
    l.step op = .ok l' →
      l'.delivered = l.delivered ∧ l'.stream.flowController = l.stream.flowController

@[simp] theorem output_afterRead (l : ReceiveLink κ) (len : Nat) (s : ReceiveStream κ)
    (progress : ReceiveStream.ReadProgress) (err : Option ReadError) :
    (l.afterRead len (s, .returned progress err)).output = some (.read progress.data err) := by
  rw [ReceiveLink.afterRead]
  cases s.isNewlyCompleted with
  | mk completed s' => cases completed <;> rfl

theorem afterPeek_keeps {s s' : ReceiveStream κ} {len : Nat} {expired : Bool}
    {outcome : ReceiveStream.PeekOutcome} (hpeeks : PeeksTo S l.received len expired s s' outcome) :
    (l.afterPeek len (s', outcome)).delivered = l.delivered ∧
      (l.afterPeek len (s', outcome)).stream.flowController = s.flowController := by
  cases outcome with
  | returned | waits => exact ⟨rfl, hpeeks.flowController⟩

section

variable (h : InStep S n before l)

include h

/-- The state in which a step starts. -/
theorem InStep.start : InStep S n before { l with output := none } :=
  { h with output := by simp }

theorem InStep.peek_keeps {len : Nat} {expired : Bool}
    (hstep : l.step (.peek len expired) = .ok l') :
    l'.delivered = l.delivered ∧ l'.stream.flowController = l.stream.flowController := by
  rw [ReceiveLink.step] at hstep
  rcases Nat.eq_zero_or_pos len with rfl | hlen
  · rw [ReceiveLink.handle, if_neg (by simp), if_pos rfl] at hstep
    cases hstep
    exact ⟨rfl, rfl⟩
  · cases hwaiting : l.waiting with
    | none =>
      obtain ⟨s, outcome, hok, hpeeks⟩ := h.start.peek hwaiting hlen expired
      rw [hok] at hstep
      cases hstep
      exact afterPeek_keeps hpeeks
    | some call =>
      rw [ReceiveLink.handle, if_pos ⟨by simp [hwaiting], hlen.ne'⟩] at hstep
      cases hstep
      exact ⟨rfl, rfl⟩

theorem InStep.wake_keeps {len : Nat}
    (hwaiting : l.waiting = some (.peek len)) {timer : Bool} {deadline : Option Nat}
    (hstep : l.step (.wake timer deadline) = .ok l') :
    l'.delivered = l.delivered ∧ l'.stream.flowController = l.stream.flowController := by
  rw [ReceiveLink.step, ReceiveLink.handle] at hstep
  by_cases hwake : l.stream.readSignal = true ∨ timer = true
  · obtain ⟨s, outcome, hok, hpeeks⟩ := h.start.wakePeek rfl hwaiting timer deadline hwake
    rw [hok] at hstep
    cases hstep
    obtain ⟨hdelivered, hflow⟩ := afterPeek_keeps hpeeks
    exact ⟨hdelivered, by cases timer <;> exact hflow⟩
  · rw [ReceiveLink.wake, if_neg hwake] at hstep
    cases hstep
    exact ⟨rfl, rfl⟩

/-- The bytes that are read after a `Peek` agree with what it returned. -/
theorem InStep.ahead {len : Nat} {data : Bytes} {err : Option ReadError}
    (houtput : l.output = some (.peek len data err))
    (hr : Reaches ReceiveLink.step (Receives S n) l l') :
    ∃ more, l'.delivered = l.delivered ++ more ∧ (more <+: data ∨ data <+: more) := by
  have h' : InStep S n l.delivered l' :=
    hr.invariant { h with since := List.prefix_refl _ } fun _ _ _ hl hG hs => hl.step hG hs
  obtain ⟨more, hmore⟩ := h'.since
  refine ⟨more, hmore.symm, ?_⟩
  have hdata : data = slice S l.stream.readPos data.length := (h.output _ houtput).content
  have hmore' : more = slice S l.stream.readPos more.length := by
    have heq : l.delivered ++ more = slice S 0 (l.stream.readPos + more.length) := by
      rw [hmore, h'.delivered, ← h'.length_delivered, ← hmore, List.length_append,
        h.length_delivered]
    rw [← slice_append, Nat.zero_add, h.delivered] at heq
    exact List.append_cancel_left heq
  rw [hdata, hmore']
  exact (Nat.le_total _ _).imp (slice_isPrefix S _) (slice_isPrefix S _)

theorem InStep.delivers : Delivers S n l where
  read := by
    rw [h.delivered]
    refine slice_isPrefix S 0 ?_
    by_contra hlt
    exact lt_irrefl n (h.within n (h.read_received (not_le.mp hlt)))
  next hwaiting hnext len deadline hlen hdeadline := by
    obtain ⟨s, outcome, hok, hreads⟩ := h.start.read hwaiting len deadline
    obtain ⟨progress, err, rfl, hne⟩ := h.start.reads_next hreads hnext hlen hdeadline
    exact ⟨_, progress.data, err, hok, output_afterRead _ _ _ _ _, hne⟩
  eof data houtput := h.output _ houtput rfl
  ended hall hfin hwaiting len deadline hlen hdeadline := by
    obtain ⟨s, outcome, hok, hreads⟩ := h.start.read hwaiting len deadline
    obtain ⟨progress, rfl, hnil⟩ := h.start.reads_eof hreads hall hfin hlen hdeadline
    exact ⟨_, hok, by rw [output_afterRead, hnil]⟩
  woken hall hfin len hwaiting := by
    obtain ⟨hlen, -, -, hsignal⟩ := h.reading len hwaiting
    have hset : l.stream.readSignal = true := by
      refine hsignal.resolve_right fun ⟨_, hlt⟩ => ?_
      rw [h.fin hfin, ← h.length_delivered, hall] at hlt
      exact lt_irrefl n hlt
    refine ⟨hset, fun timer deadline hdeadline => ?_⟩
    obtain ⟨s, outcome, hok, hreads⟩ := h.start.wakeRead rfl hwaiting timer deadline (.inl hset)
    obtain ⟨progress, rfl, hnil⟩ :=
      (h.start.resume rfl timer).reads_eof hreads hall hfin hlen hdeadline
    exact ⟨_, hok, by rw [output_afterRead, hnil]⟩
  peeks hwaiting len hall := by
    rcases Nat.eq_zero_or_pos len with rfl | hlen
    · exact ⟨{ l with output := some (.peek 0 [] none) }, by simp [ReceiveLink.step, ReceiveLink.handle], rfl⟩
    · obtain ⟨s, outcome, hok, hpeeks⟩ := h.start.peek hwaiting hlen false
      obtain rfl := h.start.peeks_all hpeeks hall
      exact ⟨_, hok, rfl⟩
  peeked len data err houtput := by
    have hpeeks : Peeks S l.received l.stream len data err := h.output _ houtput
    refine ⟨hpeeks.ok, fun heof => ?_⟩
    subst heof
    obtain ⟨hend, hfin⟩ := h.peeks_ends hpeeks
    refine ⟨?_, hfin⟩
    rw [← hend, h.length_delivered, ← slice_append, Nat.zero_add, ← h.delivered, ← hpeeks.content]
  ahead len data err houtput l' hr := h.ahead houtput hr
  keeps op l' hop hstep := by
    obtain ⟨len, expired, rfl⟩ | ⟨len, timer, deadline, hwaiting, rfl⟩ := hop
    · exact h.peek_keeps hstep
    · exact h.wake_keeps hwaiting hstep

end

/-- **Delivery**: in every run in which the peer sends the stream `S` of `n` bytes and nobody cancels
it, `Read` and `Peek` return what comes next. -/
theorem receiveLink_delivers (S : Nat → UInt8) (n streamID receiveWindow maxReceiveWindow : Nat)
    (connection : ConnectionFlowController) {l : ReceiveLink κ}
    (hr : Reaches step (Receives S n)
      (new κ streamID receiveWindow maxReceiveWindow connection) l) : Delivers S n l := by
  have h : InStep S n [] l := hr.invariant
    (inStep_new S n streamID receiveWindow maxReceiveWindow connection)
    fun _ _ _ hl hG hs => hl.step hG hs
  exact h.delivers

instance (S : Nat → UInt8) (n : Nat) (f : StreamFrame) : Decidable (Sends S n f) :=
  inferInstanceAs (Decidable (_ ∧ _ ∧ _))

instance (S : Nat → UInt8) (n : Nat) (l : ReceiveLink κ) : (op : Op κ) → Decidable (Receives S n l op)
  | .streamFrame frame _ _ => inferInstanceAs (Decidable (Sends S n frame))
  | .resetStreamFrame .. | .cancelRead .. | .closeForShutdown => .isFalse not_false
  | .read .. | .peek .. | .wake .. | .setReadDeadline | .getControlFrame .. | .finish
  | .others .. => .isTrue trivial

/-- The frames of a stream of three bytes arrive in reverse order and overlap, and a `Read` waits
for the first one. -/
def reordered : List (Op Nat) :=
  [.streamFrame { streamID := 4, offset := 1, data := [1, 2], fin := true } none 0, .read 5 none,
    .streamFrame { streamID := 4, offset := 0, data := [0, 1] } none 0, .wake false none]

theorem reordered_delivers : ∃ l,
    reordered.foldlM step (new Nat 4 100 100 (.new 100 100)) = .ok l ∧
      l.delivered = [0, 1, 2] ∧ l.output = some (.read [0, 1, 2] (some .eof)) ∧
      Delivers (fun i => UInt8.ofNat i) 3 l := by
  refine ⟨_, rfl, rfl, rfl, ?_⟩
  exact receiveLink_delivers (fun i => UInt8.ofNat i) 3 4 100 100 (.new 100 100)
    (reaches_foldlM reordered (by decide) rfl .refl)

/-- The FIN arrives after the only byte of the stream was read. -/
def lateFin : List (Op Nat) :=
  [.streamFrame { streamID := 4, offset := 0, data := [0] } none 0, .read 1 none,
    .streamFrame { streamID := 4, offset := 1, data := [], fin := true } none 0]

/-- A `Read` with an empty buffer returns nothing after the end of the stream, and a `Read` whose
deadline has passed returns the error of the deadline. -/
theorem lateFin_without_eof : ∃ l,
    lateFin.foldlM step (new Nat 4 100 100 (.new 100 100)) = .ok l ∧
      EachOk step (Receives (fun i => UInt8.ofNat i) 1) (new Nat 4 100 100 (.new 100 100))
        lateFin ∧
      l.delivered.length = 1 ∧ l.FinReceived ∧ l.waiting = none ∧
      (∃ l', l.step (.read 0 none) = .ok l' ∧ l'.output = some (.read [] none)) ∧
      (∃ l', l.step (.read 1 (some 0)) = .ok l' ∧
        l'.output = some (.read [] (some .deadline))) := by
  refine ⟨_, rfl, by decide, rfl, ?_, rfl, ⟨_, rfl, rfl⟩, ⟨_, rfl, rfl⟩⟩
  exact ⟨_, List.mem_cons_of_mem _ List.mem_cons_self, rfl⟩

end ReceiveLink

end MoqQuic.Quic
