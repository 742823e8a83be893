import MoqQuic.Quic.SendStream.Changes

/-!
# MoqQuic.Quic.SendStream.Transmission

A stream that is not cancelled transmits what was written.

The bytes of the frames that are sent for the first time, one after the other, are the bytes
`transmitted`. They and what is `unsent` make up what was written. Every frame, wherever it is,
carries the bytes of its place in `transmitted`; splitting a frame keeps that, and so does sending
more, which only adds to the end.
-/

namespace MoqQuic.Quic

open Parse Outcome Machine

/-- The frames follow each other without a gap, from an offset on. -/
def ContiguousFrom : Nat → List StreamFrame → Prop
  | _, [] => True
  | offset, f :: fs => f.offset = offset ∧ ContiguousFrom f.stop fs

theorem ContiguousFrom.concat {f : StreamFrame} :
    ∀ {fs : List StreamFrame} {offset : Nat}, ContiguousFrom offset fs →
      f.offset = offset + (fs.flatMap StreamFrame.data).length → ContiguousFrom offset (fs ++ [f])
  | [], _, _, hf => ⟨hf, trivial⟩
  | g :: gs, offset, h, hf => by
    refine ⟨h.1, h.2.concat ?_⟩
    rw [hf, List.flatMap_cons, List.length_append, StreamFrame.stop, h.1, Nat.add_assoc]

/-- The frame carries the bytes of its place. -/
def StreamFrame.Carries (f : StreamFrame) (bytes : Bytes) : Prop := f.data <+: bytes.drop f.offset

namespace StreamFrame

variable {f : StreamFrame} {bytes : Bytes}

theorem Carries.more (h : f.Carries bytes) (more : Bytes) : f.Carries (bytes ++ more) :=
  h.trans ((List.prefix_append bytes more).drop f.offset)

theorem Carries.front (h : f.Carries bytes) (n : Nat) : (f.front n).Carries bytes :=
  (List.take_prefix n f.data).trans h

theorem Carries.behind (h : f.Carries bytes) (n : Nat) : (f.behind n).Carries bytes := by
  have hdrop := h.drop n
  rw [List.drop_drop] at hdrop
  exact hdrop

end StreamFrame

namespace SendLink

/-- The application cancels the stream, or the peer stops it. -/
def Op.cancels : Op → Bool
  | .cancelWrite _ | .handleStopSendingFrame _ => true
  | _ => false

def NotCancelled (_ : SendLink) (op : Op) : Prop := op.cancels = false

instance (l : SendLink) (op : Op) : Decidable (NotCancelled l op) :=
  inferInstanceAs (Decidable (op.cancels = false))

/-- The bytes of the frames in the order in which they were sent for the first time. -/
def transmitted (l : SendLink) : Bytes := l.fresh.flatMap StreamFrame.data

/-- The frame carries what was transmitted, and its FIN is at the end. -/
def Faithful (l : SendLink) (f : StreamFrame) : Prop :=
  f.Carries l.transmitted ∧ Within l.stream f

/-- **What holds of a link that is not cancelled**; `granted` says that the connection started
within its window. -/
structure Transmits (granted : Prop) (l : SendLink) : Prop where
  notReset : l.stream.resetErr = none
  contiguous : ContiguousFrom 0 l.fresh
  length : l.transmitted.length = l.stream.writeOffset
  /-- a stream that is shut down drops the buffered frame -/
  written : ∃ dropped, l.written = l.transmitted ++ dropped ++ l.stream.unsent ∧
    (l.stream.shutdownErr = false → dropped = [])
  frames : ∀ f, l.Has f → l.Faithful f
  bytesSent : l.stream.flowController.stream.bytesSent = l.stream.writeOffset
  window : l.stream.writeOffset ≤ l.stream.flowController.stream.sendWindow
  connection : granted → l.stream.flowController.connection.bytesSent ≤
    l.stream.flowController.connection.sendWindow
  fins : (l.fresh.filter StreamFrame.fin).length = if l.stream.finSent then 1 else 0
  finSent : l.stream.finSent = true → l.stream.finishedWriting = true ∧ l.stream.unsent = [] ∧
    l.stream.shutdownErr = false

variable {granted : Prop} {l l' : SendLink}

section

variable (hl : l.Transmits granted)

include hl

/-- What is written is added to what is unsent. -/
theorem Transmits.start {p : Bytes} (writing : Option Nat)
    (hopen : l.stream.finishedWriting = false) (hdata : l.stream.dataForWriting = []) :
    Transmits granted { l with
      stream := { l.stream with dataForWriting := p }
      writing := writing
      written := l.written ++ p } := by
  obtain ⟨dropped, hwritten, hdropped⟩ := hl.written
  refine { hl with written := ⟨dropped, ?_, hdropped⟩, finSent := fun hfin => ?_ }
  · rw [hwritten]
    simp [SendStream.unsent, hdata, transmitted]
  · have hclosed := (hl.finSent hfin).1
    rw [hopen] at hclosed
    cases hclosed

theorem Transmits.buffer {f : StreamFrame} (hne : f.data ≠ []) (hdata : f.data = l.stream.unsent) :
    Transmits granted { l with
      stream := { l.stream with nextFrame := some f, dataForWriting := [] }
      writing := none } := by
  obtain ⟨dropped, hwritten, hdropped⟩ := hl.written
  refine { hl with written := ⟨dropped, ?_, hdropped⟩, finSent := fun hfin => ?_ }
  · rw [hwritten, ← hdata]
    simp [SendStream.unsent, transmitted]
  · exact absurd (hdata.trans (hl.finSent hfin).2.1) hne

theorem Transmits.giveBack :
    Transmits granted { l with
      stream := { l.stream with dataForWriting := [] }
      writing := none
      written := l.written.take (l.written.length - l.stream.dataForWriting.length) } := by
  obtain ⟨dropped, hwritten, hdropped⟩ := hl.written
  refine { hl with written := ⟨dropped, ?_, hdropped⟩, finSent := fun hfin => ?_ }
  · rw [SendStream.unsent, ← List.append_assoc] at hwritten
    dsimp only
    rw [hwritten, List.length_append, Nat.add_sub_cancel, List.take_left]
    simp [SendStream.unsent, transmitted]
  · obtain ⟨hclosed, hunsent, hshutdown⟩ := hl.finSent hfin
    refine ⟨hclosed, ?_, hshutdown⟩
    simp only [SendStream.unsent, List.append_eq_nil_iff] at hunsent ⊢
    exact ⟨hunsent.1, trivial⟩

/-- The frame that is dropped is accounted for. -/
theorem Transmits.shutdown (hopen : l.stream.finishedWriting = false) :
    Transmits granted { l with stream := { l.stream with
      retransmissionQueue := [], shutdownErr := true, nextFrame := none, writeSignal := true } } := by
  obtain ⟨dropped, hwritten, -⟩ := hl.written
  refine { hl with written := ⟨dropped ++ (l.stream.nextFrame.map StreamFrame.data).getD [], ?_,
    fun h => (by cases h)⟩, frames := fun f hf => ?_, finSent := fun hfin => ?_ }
  · rw [hwritten]
    simp [SendStream.unsent, transmitted]
  · rcases hf with hf | hf | hf
    · exact hl.frames f (.inl hf)
    · exact hl.frames f (.inr (.inl hf))
    · cases hf
  · have hclosed := (hl.finSent hfin).1
    rw [hopen] at hclosed
    cases hclosed

end

variable {counter : Int}

/-- A frame that is settled leaves the wire. -/
theorem Transmits.settle (hl : l.Transmits granted) {i : Nat} {acked : List StreamFrame} :
    Transmits granted { l with
      stream := { l.stream with numOutstandingFrames := counter }
      inFlight := l.inFlight.eraseIdx i
      acked := acked } :=
  { hl with frames := fun f hf => hl.frames f (has_settle hf) }

theorem Transmits.requeue (hl : l.Transmits granted) {i : Nat} {f : StreamFrame}
    (hf : l.inFlight[i]? = some f) :
    Transmits granted { l with
      stream := { l.stream with
        numOutstandingFrames := counter
        retransmissionQueue := l.stream.retransmissionQueue ++ [{ f with dataLenPresent := true }] }
      inFlight := l.inFlight.eraseIdx i } := by
  refine { hl with frames := fun g hg => ?_ }
  rcases has_requeue hg with hg | rfl
  · exact hl.frames g hg
  · exact hl.frames f (has_of_inFlight hf)

/-! ## emitting frames -/

/-- A frame of the queue is emitted again, whole or in part. -/
theorem Transmits.resend (hl : l.Transmits granted) {f : StreamFrame} {queue : List StreamFrame}
    (hf : l.Faithful f) (hqueue : ∀ g ∈ queue, l.Faithful g) :
    Transmits granted (l.emitted
      { l.stream with numOutstandingFrames := counter, retransmissionQueue := queue } f l.fresh) := by
  refine { hl with frames := fun g hg => ?_ }
  rcases has_emit hg with hg | rfl | hg
  · exact hl.frames g hg
  · exact hf
  · exact hqueue g hg

theorem Faithful.front {f : StreamFrame} (hf : l.Faithful f) (n : Nat) : l.Faithful (f.front n) :=
  ⟨hf.1.front n, hf.2.front n⟩

theorem Faithful.behind {f : StreamFrame} (hf : l.Faithful f) {n : Nat} (hn : n ≤ f.data.length) :
    l.Faithful (f.behind n) :=
  ⟨hf.1.behind n, hf.2.behind hn⟩

/-- **The next piece** of the stream is sent, perhaps an empty one with the FIN. -/
structure SendsNext (granted : Prop) (s s' : SendStream) (f : StreamFrame) : Prop where
  offset : f.offset = s.writeOffset
  notEnded : s.finSent = false
  unsent : s.unsent = f.data ++ s'.unsent
  writeOffset : s'.writeOffset = s.writeOffset + f.data.length
  notReset : s'.resetErr = none
  running : s.shutdownErr = false ∧ s'.shutdownErr = false
  queue : s'.retransmissionQueue = []
  finSent : s'.finSent = f.fin
  fin : f.fin = true → s'.finishedWriting = true ∧ s'.unsent = []
  bytesSent : s'.flowController.stream.bytesSent = s'.writeOffset
  window : s'.writeOffset ≤ s'.flowController.stream.sendWindow
  connection : granted →
    s'.flowController.connection.bytesSent ≤ s'.flowController.connection.sendWindow

theorem Transmits.sendNext (hl : l.Transmits granted) {s' : SendStream} {f : StreamFrame}
    (h : SendsNext granted l.stream s' f) :
    Transmits granted (l.emitted s' f (l.fresh ++ [f])) := by
  obtain ⟨dropped, hwritten, hdropped⟩ := hl.written
  have htransmitted : (l.fresh ++ [f]).flatMap StreamFrame.data = l.transmitted ++ f.data := by
    simp [transmitted]
  have hold : ∀ g, l.Has g → g.Carries (l.transmitted ++ f.data) ∧ g.stop ≤ s'.writeOffset ∧
      g.fin ≠ true := by
    intro g hg
    obtain ⟨hcarries, hstop, hended⟩ := hl.frames g hg
    refine ⟨hcarries.more f.data, ?_, fun hfin => ?_⟩
    · rw [h.writeOffset]
      exact hstop.trans (Nat.le_add_right _ _)
    · have hended := (hended hfin).1
      rw [h.notEnded] at hended
      cases hended
  have hnew : f.Carries (l.transmitted ++ f.data) ∧ f.stop = s'.writeOffset := by
    rw [StreamFrame.Carries, StreamFrame.stop, h.offset, h.writeOffset, ← hl.length, List.drop_left]
    exact ⟨List.prefix_rfl, rfl⟩
  have hfaithful : ∀ g, l.Has g ∨ g = f → g.Carries (l.transmitted ++ f.data) ∧ Within s' g := by
    rintro g (hg | rfl)
    · exact ⟨(hold g hg).1, (hold g hg).2.1, fun hfin => absurd hfin (hold g hg).2.2⟩
    · exact ⟨hnew.1, Nat.le_of_eq hnew.2, fun hfin => ⟨h.finSent.trans hfin, hnew.2⟩⟩
  exact {
    notReset := h.notReset
    contiguous := hl.contiguous.concat (by
      rw [h.offset, Nat.zero_add]
      exact hl.length.symm)
    length := by
      rw [transmitted, htransmitted, List.length_append, hl.length, h.writeOffset]
    written := by
      refine ⟨[], ?_, fun _ => rfl⟩
      rw [transmitted, htransmitted, List.append_nil, List.append_assoc, ← h.unsent, hwritten,
        hdropped h.running.1, List.append_nil]
    frames := fun g hg => by
      rw [Faithful, transmitted, htransmitted]
      rcases has_emit hg with hg | rfl | hg
      · exact hfaithful g (.inl hg)
      · exact hfaithful g (.inr rfl)
      · rw [h.queue] at hg
        cases hg
    bytesSent := h.bytesSent
    window := h.window
    connection := h.connection
    fins := by
      have hfins := hl.fins
      rw [h.notEnded] at hfins
      rw [h.finSent, List.filter_append, List.length_append, hfins]
      cases hfin : f.fin <;> simp [hfin]
    finSent := fun hfin => by
      have hended := h.fin (h.finSent.symm.trans hfin)
      exact ⟨hended.1, hended.2, h.running.2⟩ }

theorem Transmits.pop (hl : l.Transmits granted) {s : SendStream}
    {f : StreamFrame} (hshutdown : l.stream.shutdownErr = false)
    (hpops : l.stream.Pops s (some f)) :
    Transmits granted (l.emitted { s with numOutstandingFrames := s.numOutstandingFrames + 1 } f
      (if l.stream.retransmissionQueue = [] then l.fresh ++ [f] else l.fresh)) := by
  have hqueued : ∀ g ∈ l.stream.retransmissionQueue, l.Faithful g :=
    fun g hg => hl.frames g (.inr (.inr hg))
  cases hpops with
  | again f rest hqueue =>
    rw [hqueue] at hqueued
    rw [if_neg (by rw [hqueue]; exact List.cons_ne_nil f rest)]
    exact hl.resend (hqueued f List.mem_cons_self) fun g hg => hqueued g (List.mem_cons_of_mem f hg)
  | part f rest n hqueue hpos hle =>
    rw [hqueue] at hqueued
    have hf := hqueued f List.mem_cons_self
    rw [if_neg (by rw [hqueue]; exact List.cons_ne_nil f rest)]
    refine hl.resend (hf.front n) fun g hg => ?_
    rcases List.mem_cons.mp hg with rfl | hg
    · exact hf.behind hle
    · exact hqueued g (List.mem_cons_of_mem f hg)
  | fin hempty hdata hnext hclosed hnew hreset =>
    have hunsent : l.stream.unsent = [] := by simp [SendStream.unsent, hdata, hnext]
    rw [if_pos hempty]
    exact hl.sendNext {
      offset := rfl
      notEnded := hnew
      unsent := rfl
      writeOffset := rfl
      notReset := hl.notReset
      running := ⟨hshutdown, hshutdown⟩
      queue := hempty
      finSent := rfl
      fin := fun _ => ⟨hclosed, hunsent⟩
      bytesSent := hl.bytesSent
      window := hl.window
      connection := hl.connection }
  | new s f hnew =>
    have hended : l.stream.finSent = false := by
      refine Bool.eq_false_of_not_eq_true fun hfin => hnew.nonempty ?_
      have hunsent := hnew.unsent
      rw [(hl.finSent hfin).2.1] at hunsent
      exact (List.append_eq_nil_iff.mp hunsent.symm).1
    have hwithin := hnew.spent.within (List.length_pos_of_ne_nil hnew.nonempty) hnew.window
    have hspent := hnew.spent.bytesSent
    have hunsent := hnew.unsent
    have hfin := hnew.fin
    rw [if_pos hnew.noRetransmissions]
    obtain ⟨nextFrame, dataForWriting, writeSignal, flowController, rfl⟩ := hnew.same
    rw [hl.bytesSent] at hspent
    exact hl.sendNext {
      offset := hnew.offset
      notEnded := hended
      unsent := hunsent
      writeOffset := rfl
      notReset := hl.notReset
      running := ⟨hshutdown, hshutdown⟩
      queue := hnew.noRetransmissions
      finSent := by
        dsimp only
        rw [hended, Bool.false_or]
      fin := fun h => by
        rw [h, eq_comm, Bool.and_eq_true, Bool.and_eq_true] at hfin
        exact ⟨hfin.1.1, List.isEmpty_iff.mp hfin.1.2⟩
      bytesSent := hspent
      window := hspent ▸ hwithin.1
      connection := fun _ => hwithin.2 }

/-! ## runs -/

theorem Transmits.change (hl : l.Transmits granted) (h : Change NotCancelled l l') :
    l'.Transmits granted := by
  cases h with
  | signal | finish | setReliableBoundary | enableResetStreamAt | getControlFrame
  | ackResetLate | ackReset | loseResetLate | loseReset => exact { hl with }
  | start p hp hwriting hreset hshutdown hopen hdata => exact hl.start _ hopen hdata
  | buffer f hoffset hne hdata => exact hl.buffer hne hdata
  | giveBack => exact hl.giveBack
  | close hshutdown =>
    exact { hl with finSent := fun hfin => ⟨rfl, (hl.finSent hfin).2⟩ }
  | reset errorCode hG hshutdown hreset => cases hG
  | shutdown hG hshutdown hopen => exact hl.shutdown hopen
  | widen c hc =>
    exact { hl with
      bytesSent := hc.bytesSent.trans hl.bytesSent
      window := hl.window.trans hc.sendWindow
      connection := fun h => hc.connection (hl.connection h) }
  | stopSending errorCode hG hshutdown habandoned err => cases hG
  | pop s f hshutdown habandoned hpops => exact hl.pop hshutdown hpops
  | ackLate | ack | loseLate | drop => exact hl.settle
  | requeue i f f' hf habandoned hcut =>
    rcases hcut with ⟨-, rfl⟩ | ⟨hreset, -⟩
    · exact hl.requeue hf
    · rw [hl.notReset] at hreset
      cases hreset

theorem transmits_new (streamID sendWindow : Nat) (connection : ConnectionFlowController)
    (supports : Bool) : Transmits (connection.bytesSent ≤ connection.sendWindow)
      (new streamID sendWindow connection supports) where
  notReset := rfl
  contiguous := trivial
  length := rfl
  written := ⟨[], rfl, fun _ => rfl⟩
  frames := by
    rintro f (hf | hf | hf) <;> cases hf
  bytesSent := rfl
  window := Nat.zero_le _
  connection := id
  fins := rfl
  finSent := fun h => by cases h

theorem Transmits.completes (hl : l.Transmits granted) (h : Completes l l') :
    l'.Transmits granted := by
  rw [h.result]
  exact { hl with }

/-- Once everything is transmitted, the next pop sends the FIN. -/
theorem Transmits.sends_fin (hl : l.Transmits granted) (hs : l.Sound)
    (hclosed : l.stream.finishedWriting = true) (hnew : l.stream.finSent = false)
    (hshutdown : l.stream.shutdownErr = false) (hall : l.transmitted = l.written)
    (hqueue : l.stream.retransmissionQueue = []) (maxBytes : Int) :
    ∃ l', l.step (.popStreamFrame maxBytes) = .ok l' ∧ l'.stream.finSent = true := by
  obtain ⟨dropped, hwritten, hdropped⟩ := hl.written
  rw [hdropped hshutdown, List.append_nil, ← hall] at hwritten
  have hunsent := (SendStream.unsent_eq_nil_iff hs.buffered).mp
    (List.self_eq_append_right.mp hwritten)
  have hstopped : l.stream.stopped = false := by simp [SendStream.stopped, hshutdown, hl.notReset]
  have hpop : l.stream.popNewOrRetransmittedStreamFrame maxBytes = .ok
      { stream := { l.stream with finSent := true }
        frame := some { streamID := l.stream.streamID, offset := l.stream.writeOffset, fin := true }
        hasMore := false } := by
    unfold SendStream.popNewOrRetransmittedStreamFrame
    rw [if_neg (by rw [hstopped]; exact Bool.false_ne_true)]
    split
    · unfold SendStream.popUnsent
      rw [if_pos hunsent, if_pos ⟨hclosed, hnew⟩]
      rfl
    · next f rest hcons =>
      rw [hqueue] at hcons
      cases hcons
  rw [step, SendStream.popStreamFrame, hpop]
  exact ⟨_, rfl, rfl⟩

/-- **A stream that is neither cancelled nor stopped transmits what was written**: in every state
that is reached, the frames sent for the first time are contiguous and carry a front piece of what
was written, every frame carries the bytes of its place, both windows are kept, and one FIN is
sent, after `Close` and at the end. When all bytes are transmitted, the next pop sends it. -/
theorem sendLink_transmits_written (streamID sendWindow : Nat)
    (connection : ConnectionFlowController) (supports : Bool)
    (h : Reaches step NotCancelled (new streamID sendWindow connection supports) l) :
    ContiguousFrom 0 l.fresh ∧ l.transmitted <+: l.written ∧
      (∀ f ∈ l.sent, f.Carries l.written ∧ f.stop ≤ l.written.length) ∧
      l.stream.flowController.stream.bytesSent = l.stream.writeOffset ∧
      l.stream.writeOffset = l.transmitted.length ∧
      l.stream.writeOffset ≤ l.stream.flowController.stream.sendWindow ∧
      (connection.bytesSent ≤ connection.sendWindow →
        l.stream.flowController.connection.bytesSent ≤
          l.stream.flowController.connection.sendWindow) ∧
      (l.fresh.filter StreamFrame.fin).length = (if l.stream.finSent then 1 else 0) ∧
      (∀ f ∈ l.sent, f.fin = true → l.stream.finishedWriting = true ∧ f.stop = l.written.length) ∧
      (l.stream.finishedWriting = true → l.stream.finSent = false →
        l.stream.shutdownErr = false → l.transmitted = l.written →
        l.stream.retransmissionQueue = [] → ∀ maxBytes,
          ∃ l', l.step (.popStreamFrame maxBytes) = .ok l' ∧ l'.stream.finSent = true) := by
  obtain ⟨hs, hl⟩ := reaches_invariant
    ⟨sound_new streamID sendWindow connection supports,
      transmits_new streamID sendWindow connection supports⟩
    (fun _ _ _ hl h => hl.change h) (fun _ _ _ hl h => hl.completes h) h
  obtain ⟨dropped, hwritten, hdropped⟩ := hl.written
  have hinit : l.transmitted <+: l.written := by
    rw [hwritten, List.append_assoc]
    exact List.prefix_append _ _
  refine ⟨hl.contiguous, hinit, fun f hf => ?_, hl.bytesSent, hl.length.symm, hl.window,
    hl.connection, hl.fins, fun f hf hfin => ?_, hl.sends_fin hs⟩
  · obtain ⟨hcarries, hstop, -⟩ := hl.frames f (.inl hf)
    refine ⟨hcarries.trans (hinit.drop f.offset), hstop.trans ?_⟩
    rw [← hl.length]
    exact hinit.length_le
  · obtain ⟨hsent, hstop⟩ := (hl.frames f (.inl hf)).2.2 hfin
    obtain ⟨hclosed, hunsent, hshutdown⟩ := hl.finSent hsent
    refine ⟨hclosed, ?_⟩
    rw [hstop, hwritten, hunsent, hdropped hshutdown, List.append_nil, List.append_nil, hl.length]

/-- A frame is lost and sent again before the FIN. -/
def lossyTransfer : List Op :=
  [.write [1, 2, 3] false false, .popStreamFrame 50, .close, .loseFrame 0, .popStreamFrame 50,
    .popStreamFrame 50]

theorem lossyTransfer_transmits_written :
    ∃ l, lossyTransfer.foldlM step (new 4 100 { ConnectionFlowController.new 0 0 with
        sendWindow := 100 } true) = .ok l ∧
      l.sent.map StreamFrame.data = [[1, 2, 3], [1, 2, 3], []] ∧ l.transmitted <+: l.written := by
  refine ⟨_, rfl, by decide, ?_⟩
  exact (sendLink_transmits_written 4 100
    { ConnectionFlowController.new 0 0 with sendWindow := 100 } true
    (reaches_foldlM lossyTransfer (by decide) rfl .refl)).2.1

end SendLink

end MoqQuic.Quic
