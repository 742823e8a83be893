import MoqQuic.Lib.Outcome
import MoqQuic.Quic.SendStream

/-!
# MoqQuic.Quic.SendStream.Pops

What `popStreamFrame` can do.

It takes the first frame of the retransmission queue, or splits the front of it off. Only when
there are no retransmissions it sends new data, or a FIN without data. New data is a front piece
of what is `unsent`: the buffered frame, and behind it the data of the `Write` in progress.
-/

namespace MoqQuic.Quic

open Parse Outcome

/-- The panics of `quicvarint.Len` and of slices, which depend on the size that is asked for. -/
abbrev SizePanic : StreamPanic → Prop := fun e => e ≠ .numOutstandingFramesNegative

theorem holds_varintLen (i : Nat) : Holds SizePanic (fun _ => True) (varintLen i) := by
  unfold varintLen
  cases Quicvarint.len i <;> simp

namespace StreamFrame

/-- The offset behind the data. -/
def stop (f : StreamFrame) : Nat := f.offset + f.data.length

variable (f : StreamFrame)

theorem holds_prefixLen : Holds SizePanic (fun _ => True) f.prefixLen := by
  refine (holds_varintLen _).bind fun idLen _ => ?_
  split
  · exact (holds_varintLen _).bind fun _ _ => trivial
  · trivial

theorem holds_length : Holds SizePanic (fun _ => True) f.length := by
  refine f.holds_prefixLen.bind fun prefixLen _ => ?_
  split
  · exact (holds_varintLen _).bind fun _ _ => trivial
  · trivial

theorem holds_maxDataLen (maxSize : Int) :
    Holds SizePanic (fun _ => True) (f.maxDataLen maxSize) := by
  refine f.holds_prefixLen.bind fun prefixLen _ => ?_
  dsimp only
  generalize (if f.dataLenPresent = true then prefixLen + 1 else prefixLen) = headerLen
  split
  · trivial
  · split
    · exact (holds_varintLen _).bind fun _ _ => trivial
    · trivial

/-- The rest of a frame whose first `n` bytes are split off. -/
def behind (f : StreamFrame) (n : Nat) : StreamFrame :=
  { f with offset := f.offset + n, data := f.data.drop n }

/-- The first `n` bytes of a frame; the FIN stays with the rest. -/
def front (f : StreamFrame) (n : Nat) : StreamFrame := { f with data := f.data.take n, fin := false }

/-- The ways of `MaybeSplitOffFrame`: the frame fits, not even one byte of it does, or it is
split. -/
theorem holds_maybeSplitOffFrame (maxSize : Int) :
    Holds SizePanic (fun result => result = (f, none, false) ∨ result = (f, none, true) ∨
        ∃ n, 0 < n ∧ n ≤ f.data.length ∧ result = (f.behind n, some (f.front n), true))
      (f.maybeSplitOffFrame maxSize) := by
  refine f.holds_length.bind fun length _ => ?_
  split
  · exact .inl rfl
  · refine (f.holds_maxDataLen maxSize).bind fun n _ => ?_
    split
    · exact .inr (.inl rfl)
    · next hpos =>
      split
      · exact fun h => by cases h
      · next hle => exact .inr (.inr ⟨n, Nat.pos_of_ne_zero hpos, Nat.not_lt.mp hle, rfl⟩)

end StreamFrame

namespace SendStream

variable {s : SendStream}

/-- The buffered frame starts where the next byte is sent, and has data. -/
def Buffered (s : SendStream) : Prop :=
  ∀ f, s.nextFrame = some f → f.offset = s.writeOffset ∧ f.data ≠ []

/-- The data that was written and not sent. -/
def unsent (s : SendStream) : Bytes := (s.nextFrame.map StreamFrame.data).getD [] ++ s.dataForWriting

/-- Bytes are accounted for at both levels of flow control. -/
structure Spent (c : StreamFlow) (n : Nat) (c' : StreamFlow) : Prop where
  bytesSent : c'.stream.bytesSent = c.stream.bytesSent + n
  sendWindow : c'.stream.sendWindow = c.stream.sendWindow
  connectionSent : c'.connection.bytesSent = c.connection.bytesSent + n
  connectionWindow : c'.connection.sendWindow = c.connection.sendWindow

theorem spent_addBytesSent (c : StreamFlow) (n : Nat) : Spent c n (c.addBytesSent n) :=
  ⟨rfl, rfl, rfl, rfl⟩

theorem Spent.isNewlyBlocked {c c' : StreamFlow} {n : Nat} (h : Spent c n c') :
    Spent c n c'.isNewlyBlocked.2 := by
  unfold StreamFlow.isNewlyBlocked BaseFlowController.isNewlyBlocked
  split
  · next hblocked =>
    split at hblocked <;> cases hblocked <;>
      exact { h with }

/-- What is sent within the windows stays within them. -/
theorem Spent.within {c c' : StreamFlow} {n : Nat} (h : Spent c n c') (hpos : 0 < n)
    (hle : n ≤ c.sendWindowSize) :
    c'.stream.bytesSent ≤ c'.stream.sendWindow ∧
      c'.connection.bytesSent ≤ c'.connection.sendWindow := by
  have hbase : ∀ b : BaseFlowController, n ≤ b.sendWindowSize → b.bytesSent + n ≤ b.sendWindow := by
    intro b hb
    unfold BaseFlowController.sendWindowSize at hb
    split at hb <;> omega
  rw [h.bytesSent, h.sendWindow, h.connectionSent, h.connectionWindow]
  exact ⟨hbase _ (hle.trans (Nat.min_le_left _ _)), hbase _ (hle.trans (Nat.min_le_right _ _))⟩

/-- New data is sent: `data` is a front piece of what is unsent and fits the window, and what a
stream that was reset sends stays below the reliable size. The FIN goes with the last piece. -/
structure SendsNew (s s' : SendStream) (f : StreamFrame) : Prop where
  noRetransmissions : s.retransmissionQueue = []
  nonempty : f.data ≠ []
  offset : f.offset = s.writeOffset
  unsent : s.unsent = f.data ++ s'.unsent
  window : f.data.length ≤ s.flowController.sendWindowSize
  reliable : s.resetErr.isSome → s.writeOffset + f.data.length ≤ s.reliableOffset
  fin : f.fin = (s.finishedWriting && s'.unsent.isEmpty && !s.finSent)
  buffered : s'.Buffered
  idle : s.dataForWriting = [] → s'.dataForWriting = []
  bufferedLen : s.bufferedLen ≤ f.data.length + s'.bufferedLen
  spent : Spent s.flowController f.data.length s'.flowController
  same : ∃ nextFrame dataForWriting writeSignal flowController, s' = { s with
    writeOffset := s.writeOffset + f.data.length
    nextFrame := nextFrame
    dataForWriting := dataForWriting
    writeSignal := writeSignal
    flowController := flowController
    finSent := s.finSent || f.fin }

/-- **What a pop can do**, to the stream and which frame it gives. -/
inductive Pops (s : SendStream) : SendStream → Option StreamFrame → Prop
  | nothing : Pops s s none
  | again (f : StreamFrame) (rest : List StreamFrame) (h : s.retransmissionQueue = f :: rest) :
      Pops s { s with retransmissionQueue := rest } (some f)
  | part (f : StreamFrame) (rest : List StreamFrame) (n : Nat)
      (h : s.retransmissionQueue = f :: rest) (hpos : 0 < n) (hle : n ≤ f.data.length) :
      Pops s { s with retransmissionQueue := f.behind n :: rest } (some (f.front n))
  | fin (hempty : s.retransmissionQueue = []) (hdata : s.dataForWriting = [])
      (hnext : s.nextFrame = none) (hclosed : s.finishedWriting = true) (hnew : s.finSent = false)
      (hreset : s.resetErr.isSome → s.writeOffset < s.reliableOffset) :
      Pops s { s with finSent := true }
        (some { streamID := s.streamID, offset := s.writeOffset, fin := true })
  | new (s' : SendStream) (f : StreamFrame) (h : SendsNew s s' f) : Pops s s' (some f)

/-- What a pop leaves alone. -/
structure SameReset (s s' : SendStream) : Prop where
  counter : s'.numOutstandingFrames = s.numOutstandingFrames
  resetErr : s'.resetErr = s.resetErr
  reliableOffset : s'.reliableOffset = s.reliableOffset
  abandoned : s'.abandoned = s.abandoned
  control : s'.queuedResetStreamFrame = s.queuedResetStreamFrame
  completed : s'.completed = s.completed

theorem Pops.sameReset {s' : SendStream} {f : Option StreamFrame} (h : Pops s s' f) :
    SameReset s s' := by
  cases h with
  | nothing | again | part | fin => exact ⟨rfl, rfl, rfl, rfl, rfl, rfl⟩
  | new s' f hnew =>
    obtain ⟨nextFrame, dataForWriting, writeSignal, flowController, rfl⟩ := hnew.same
    exact ⟨rfl, rfl, rfl, rfl, rfl, rfl⟩

/-! ## new data -/

/-- A front piece of the unsent data is put in a frame; nothing is accounted for yet. -/
structure Takes (s s' : SendStream) (f : StreamFrame) (maxDataLen : Nat) : Prop where
  nonempty : f.data ≠ []
  offset : f.offset = s.writeOffset
  le : f.data.length ≤ maxDataLen
  unsent : s.unsent = f.data ++ s'.unsent
  next : ∀ g, s'.nextFrame = some g → g.offset = s.writeOffset + f.data.length ∧ g.data ≠ []
  idle : s.dataForWriting = [] → s'.dataForWriting = []
  bufferedLen : s.bufferedLen ≤ f.data.length + s'.bufferedLen
  same : ∃ nextFrame dataForWriting writeSignal, s' = { s with
    nextFrame := nextFrame, dataForWriting := dataForWriting, writeSignal := writeSignal }

theorem takes_popNextFrame {nextFrame : StreamFrame} (hb : s.Buffered)
    (hnext : s.nextFrame = some nextFrame) (maxDataLen : Nat) :
    ((s.popNextFrame nextFrame maxDataLen).2.1 = none ∧
        (s.popNextFrame nextFrame maxDataLen).1 = s) ∨
      ∃ f, (s.popNextFrame nextFrame maxDataLen).2.1 = some f ∧
        Takes s (s.popNextFrame nextFrame maxDataLen).1 f maxDataLen := by
  obtain ⟨hoffset, hdata⟩ := hb nextFrame hnext
  unfold popNextFrame
  split
  · exact .inl ⟨rfl, rfl⟩
  · next hpos =>
    split
    · next hlong =>
      have hlen : maxDataLen < nextFrame.data.length := hlong
      have htake : (nextFrame.data.take maxDataLen).length = maxDataLen :=
        List.length_take_of_le (Nat.le_of_lt hlen)
      refine .inr ⟨_, rfl, ?_, hoffset, Nat.le_of_eq htake, ?_, ?_, id, ?_, _, _, _, rfl⟩
      · rw [Ne, ← List.length_eq_zero_iff, htake]
        exact hpos
      · simp [unsent, hnext, ← List.append_assoc]
      · intro g hg
        cases hg
        refine ⟨by rw [htake], ?_⟩
        rw [Ne, List.drop_eq_nil_iff]
        omega
      · simp only [bufferedLen, hnext, Option.map_some, Option.getD_some, StreamFrame.dataLen,
          List.length_drop, List.length_take]
        omega
    · next hshort =>
      refine .inr
        ⟨nextFrame, rfl, hdata, hoffset, Nat.not_lt.mp hshort, ?_, ?_, id, ?_, _, _, _, rfl⟩
      · simp [unsent, hnext, signalWrite]
      · intro g hg
        cases hg
      · simp [bufferedLen, hnext, StreamFrame.dataLen]

theorem takes_getDataForWriting {maxBytes : Nat} (hnext : s.nextFrame = none)
    (hdata : s.dataForWriting ≠ []) (hpos : 0 < maxBytes) :
    Holds SizePanic (fun result => Takes s result.1 result.2 maxBytes)
      (s.getDataForWriting { streamID := s.streamID, offset := s.writeOffset } maxBytes) := by
  have hzero : s.bufferedLen = 0 := by rw [bufferedLen, hnext, Option.map_none, Option.getD_none]
  unfold getDataForWriting
  split
  · exact fun h => by cases h
  · split
    · next hle =>
      refine ⟨hdata, rfl, hle, ?_, ?_, fun _ => rfl, hzero.trans_le (Nat.zero_le _), _, _, _, rfl⟩
      · simp [unsent, hnext, signalWrite]
      · intro g hg
        rw [show s.nextFrame = some g from hg] at hnext
        cases hnext
    · next hlong =>
      have hlen : maxBytes < s.dataForWriting.length := Nat.not_le.mp hlong
      have htake : (s.dataForWriting.take maxBytes).length = maxBytes :=
        List.length_take_of_le (Nat.le_of_lt hlen)
      have htakes : ∀ writeSignal, Takes s
          { s with dataForWriting := s.dataForWriting.drop maxBytes, writeSignal := writeSignal }
          { streamID := s.streamID, offset := s.writeOffset,
            data := s.dataForWriting.take maxBytes } maxBytes := by
        intro writeSignal
        refine ⟨?_, rfl, Nat.le_of_eq htake, ?_, ?_, fun h => absurd h hdata,
          hzero.trans_le (Nat.zero_le _), _, _, _, rfl⟩
        · rw [Ne, ← List.length_eq_zero_iff, htake]
          omega
        · simp [unsent, hnext]
        · intro g hg
          rw [show s.nextFrame = some g from hg] at hnext
          cases hnext
      dsimp only
      rw [holds_ok]
      split
      · exact htakes true
      · exact htakes s.writeSignal

theorem takes_popNewStreamFrameWithoutBuffer {maxBytes : Int} {sendWindow : Nat}
    (hnext : s.nextFrame = none) (hdata : s.dataForWriting ≠ []) (hpos : 0 < sendWindow) :
    Holds SizePanic (fun result =>
        (result.1 = s ∧ result.2.1.data = [] ∧ result.2.1.fin = false) ∨
          Takes s result.1 result.2.1 sendWindow)
      (s.popNewStreamFrameWithoutBuffer { streamID := s.streamID, offset := s.writeOffset }
        maxBytes sendWindow) := by
  refine (StreamFrame.holds_maxDataLen _ maxBytes).bind fun maxDataLen _ => ?_
  split
  · exact .inl ⟨rfl, rfl, rfl⟩
  · next hmax =>
    refine (takes_getDataForWriting hnext hdata (by omega)).bind fun result ht => ?_
    refine .inr ⟨ht.nonempty, ht.offset, ht.le.trans (Nat.min_le_right _ _), ht.unsent, ht.next,
      ht.idle, ht.bufferedLen, ht.same⟩

theorem takes_popNewStreamFrame (maxBytes : Int) {maxDataLen : Nat} (hb : s.Buffered)
    (hsome : ¬ (s.dataForWriting = [] ∧ s.nextFrame = none)) (hpos : 0 < maxDataLen) :
    Holds SizePanic (fun result => (result.2.1 = none ∧ result.1 = s) ∨
        ∃ f, result.2.1 = some f ∧ Takes s result.1 f maxDataLen)
      (s.popNewStreamFrame maxBytes maxDataLen) := by
  unfold popNewStreamFrame
  cases hnext : s.nextFrame with
  | some nextFrame =>
    refine (nextFrame.holds_maxDataLen maxBytes).bind fun n _ => ?_
    rcases takes_popNextFrame hb hnext (min maxDataLen n) with hnone | ⟨f, hf, ht⟩
    · exact .inl hnone
    · refine .inr ⟨f, hf, ht.nonempty, ht.offset, ?_, ht.unsent, ht.next, ht.idle,
        ht.bufferedLen, ht.same⟩
      exact ht.le.trans (Nat.min_le_left _ _)
  | none =>
    have hdata : s.dataForWriting ≠ [] := fun h => hsome ⟨h, hnext⟩
    refine (takes_popNewStreamFrameWithoutBuffer hnext hdata hpos).bind fun result ht => ?_
    rw [holds_pure]
    rcases ht with ⟨hsame, hempty, hfin⟩ | ht
    · exact .inl ⟨if_pos ⟨hempty, hfin⟩, hsame⟩
    · exact .inr ⟨result.2.1, if_neg fun h => ht.nonempty h.1, ht⟩

theorem isEmpty_unsent (hb : s.Buffered) :
    s.unsent.isEmpty = (s.dataForWriting.isEmpty && s.nextFrame.isNone) := by
  unfold unsent
  cases hnext : s.nextFrame with
  | none => simp
  | some f => simp [(hb f hnext).2]

theorem unsent_eq_nil_iff (hb : s.Buffered) :
    s.unsent = [] ↔ s.dataForWriting = [] ∧ s.nextFrame = none := by
  rw [← List.isEmpty_iff, isEmpty_unsent hb, Bool.and_eq_true, List.isEmpty_iff,
    Option.isNone_iff_eq_none]

/-- The FIN goes with a new frame. -/
def sendsFin (s : SendStream) : Bool :=
  s.finishedWriting && s.dataForWriting.isEmpty && s.nextFrame.isNone && !s.finSent

theorem accountNew_eq {f : StreamFrame} (hdata : f.data ≠ []) (maxDataLen : Nat) (hasMore : Bool) :
    ∃ flowController, Spent s.flowController f.data.length flowController ∧
      (s.accountNew f maxDataLen hasMore).stream = { s with
        writeOffset := s.writeOffset + f.data.length
        flowController := flowController
        finSent := s.finSent || s.sendsFin } ∧
      (s.accountNew f maxDataLen hasMore).frame = some { f with fin := s.sendsFin } := by
  have hspent := spent_addBytesSent s.flowController f.data.length
  have hlen : f.dataLen > 0 := List.length_pos_of_ne_nil hdata
  unfold accountNew
  simp only [hlen, ↓reduceIte]
  split
  · exact ⟨_, hspent.isNewlyBlocked, rfl, rfl⟩
  · exact ⟨_, hspent, rfl, rfl⟩

theorem Takes.sendsNew {s' : SendStream} {f : StreamFrame} {maxDataLen : Nat}
    (ht : Takes s s' f maxDataLen) (hqueue : s.retransmissionQueue = [])
    (hwindow : maxDataLen ≤ s.flowController.sendWindowSize)
    (hreset : s.resetErr.isSome → s.writeOffset + maxDataLen ≤ s.reliableOffset)
    (hasMore : Bool) :
    ∃ f', (s'.accountNew f maxDataLen hasMore).frame = some f' ∧
      SendsNew s (s'.accountNew f maxDataLen hasMore).stream f' := by
  obtain ⟨nextFrame, dataForWriting, writeSignal, rfl⟩ := ht.same
  obtain ⟨flowController, hspent, hstream, hframe⟩ := accountNew_eq
    (s := { s with
      nextFrame := nextFrame, dataForWriting := dataForWriting, writeSignal := writeSignal })
    ht.nonempty maxDataLen hasMore
  have hle := ht.le
  have hbuffered : Buffered (accountNew { s with
      nextFrame := nextFrame, dataForWriting := dataForWriting, writeSignal := writeSignal }
      f maxDataLen hasMore).stream := by
    rw [hstream]
    exact ht.next
  refine ⟨_, hframe, hqueue, ht.nonempty, ht.offset, ?_, hle.trans hwindow, ?_, ?_, ?_, ?_, ?_,
    ?_, ?_⟩
  · rw [hstream]
    exact ht.unsent
  · intro hsome
    have hbound := hreset hsome
    dsimp only
    omega
  · rw [isEmpty_unsent hbuffered, hstream]
    simp only [sendsFin, Bool.and_assoc]
  · exact hbuffered
  · rw [hstream]
    exact ht.idle
  · rw [hstream]
    exact ht.bufferedLen
  · rw [hstream]
    exact hspent
  · exact ⟨_, _, _, _, hstream⟩

theorem pops_popUnsent (hb : s.Buffered) (hqueue : s.retransmissionQueue = [])
    (hreset : s.resetErr.isSome → s.writeOffset < s.reliableOffset) (maxBytes : Int) :
    Holds SizePanic (fun popped => Pops s popped.stream popped.frame) (s.popUnsent maxBytes) := by
  unfold popUnsent
  split
  · next hnone =>
    split
    · next hfin => exact .fin hqueue hnone.1 hnone.2 hfin.1 hfin.2 hreset
    · exact .nothing
  · next hsome =>
    dsimp only
    split
    · exact .nothing
    · next hwindow =>
      generalize hmax : (if s.resetErr.isSome = true ∧ s.reliableOffset > 0 then
        min s.flowController.sendWindowSize (s.reliableOffset - s.writeOffset)
        else s.flowController.sendWindowSize) = maxDataLen
      have hbounds : 0 < maxDataLen ∧ maxDataLen ≤ s.flowController.sendWindowSize ∧
          (s.resetErr.isSome → s.writeOffset + maxDataLen ≤ s.reliableOffset) := by
        rw [← hmax]
        split
        · next hr =>
          have hlt := hreset hr.1
          omega
        · next hr =>
          refine ⟨Nat.pos_of_ne_zero hwindow, Nat.le_refl _, fun hsome => ?_⟩
          have hlt := hreset hsome
          exact absurd ⟨hsome, by omega⟩ hr
      refine (takes_popNewStreamFrame _ hb hsome hbounds.1).bind fun result ht => ?_
      obtain ⟨s', f, hasMore⟩ := result
      rcases ht with ⟨hf, hs⟩ | ⟨f', hf, ht⟩
      · cases hf
        cases hs
        exact .nothing
      · cases hf
        obtain ⟨f'', hf'', hsends⟩ := ht.sendsNew hqueue hbounds.2.1 hbounds.2.2 hasMore
        dsimp only
        rw [holds_pure, hf'']
        exact .new _ f'' hsends

theorem pops_popNewOrRetransmittedStreamFrame (hb : s.Buffered) (maxBytes : Int) :
    Holds SizePanic (fun popped => Pops s popped.stream popped.frame ∧
        (popped.frame.isSome → s.shutdownErr = false ∧ s.abandoned = false))
      (s.popNewOrRetransmittedStreamFrame maxBytes) := by
  unfold popNewOrRetransmittedStreamFrame
  split
  · exact ⟨.nothing, fun h => by cases h⟩
  · next hstopped =>
    simp only [stopped, Bool.or_eq_true, Bool.and_eq_true, decide_eq_true_eq, List.isEmpty_iff,
      not_or, not_and, Bool.not_eq_true] at hstopped
    have habandoned : s.abandoned = false := by
      rw [abandoned, Bool.and_eq_false_imp]
      exact fun hsome => decide_eq_false (hstopped.2 hsome).1
    refine Holds.imp (Q := fun popped : Popped => Pops s popped.stream popped.frame) ?_
      fun popped h => ⟨h, fun _ => ⟨hstopped.1, habandoned⟩⟩
    cases hqueue : s.retransmissionQueue with
    | nil =>
      refine pops_popUnsent hb hqueue (fun hsome => ?_) maxBytes
      have hless := (hstopped.2 hsome).2
      exact Nat.not_le.mp fun h => hless h hqueue
    | cons f rest =>
      refine Holds.bind (Q := fun result => Pops s result.1 result.2.1 ∧
        (result.2.1.isSome ∨ result.2.2 = true)) ?_ fun result hresult => ?_
      · refine (f.holds_maybeSplitOffFrame maxBytes).bind fun result hresult => ?_
        rcases hresult with rfl | rfl | ⟨n, hpos, hle, rfl⟩
        · exact ⟨.again f rest hqueue, .inl rfl⟩
        · refine ⟨?_, .inr rfl⟩
          rw [← hqueue]
          exact .nothing
        · exact ⟨.part f rest n hqueue hpos hle, .inl rfl⟩
      · obtain ⟨s', f', more⟩ := result
        dsimp only
        rw [if_pos hresult.2]
        exact hresult.1

theorem pops_popStreamFrame (hb : s.Buffered) (maxBytes : Int) :
    Holds SizePanic (fun popped => popped.frame = none ∧ popped.stream = s ∨
        ∃ s' f, popped.frame = some f ∧ (s.shutdownErr = false ∧ s.abandoned = false) ∧
          Pops s s' (some f) ∧
          popped.stream = { s' with numOutstandingFrames := s'.numOutstandingFrames + 1 })
      (s.popStreamFrame maxBytes) := by
  refine (pops_popNewOrRetransmittedStreamFrame hb maxBytes).bind fun popped hpops => ?_
  obtain ⟨s', frame, blocked, hasMore⟩ := popped
  cases frame with
  | none =>
    cases hpops.1
    exact .inl ⟨rfl, rfl⟩
  | some f => exact .inr ⟨s', f, rfl, hpops.2 rfl, hpops.1, rfl⟩

end SendStream

end MoqQuic.Quic
