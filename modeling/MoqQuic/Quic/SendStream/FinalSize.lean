import MoqQuic.Quic.SendStream.Changes

/-!
# MoqQuic.Quic.SendStream.FinalSize

The final size of a send stream.

RESET_STREAM frames and FINs tell the peer the final size of the stream. It is the write offset at
that time, and it stays so if nothing is sent afterwards. That fails when `CancelWrite` promises
more than was sent: with RESET_STREAM_AT, data that is only buffered counts as reliable, so the
final size is beyond the write offset and may be beyond the window, and a STOP_SENDING afterwards
gives another final size. It also fails when the FIN was on a frame that is cut at the reliable
size, since the FIN bit stays. Apart from that all frames agree.
-/

namespace MoqQuic.Quic

open Parse Outcome Machine

namespace SendLink

variable {l l' : SendLink}

/-- **All frames agree on a final size** within the window. -/
def FinalSizeAgrees (l : SendLink) : Prop :=
  ∃ n, (∀ r ∈ l.resets, r.finalSize = n) ∧ (∀ f ∈ l.sent, f.fin = true → f.stop = n) ∧
    (∀ f ∈ l.sent, f.stop ≤ n) ∧ n ≤ l.stream.flowController.stream.sendWindow

/-- The reliable part was sent, and if the FIN was sent, no frame with it is cut. -/
def SentReliable (s : SendStream) : Prop :=
  s.reliableOffset ≤ s.writeOffset ∧
    (s.finSent = true → s.reliableOffset = 0 ∨ s.reliableOffset = s.writeOffset)

instance (s : SendStream) : Decidable (SentReliable s) :=
  inferInstanceAs (Decidable (_ ∧ _))

/-- The calls that keep the final size. -/
def KeepsFinalSize (l : SendLink) : Op → Prop
  | .cancelWrite _ => l.stream.resetErr = none → SentReliable l.stream
  | .setReliableBoundary =>
    l.stream.resetErr = none ∨ l.stream.supportsResetStreamAt = false ∨ l.stream.nextFrame = none
  | .enableResetStreamAt => l.stream.resetErr = none
  | _ => True

instance (l : SendLink) : (op : Op) → Decidable (KeepsFinalSize l op)
  | .cancelWrite _ => inferInstanceAs (Decidable (_ → _))
  | .setReliableBoundary => inferInstanceAs (Decidable (_ ∨ _ ∨ _))
  | .enableResetStreamAt => inferInstanceAs (Decidable (_ = none))
  | .write .. | .wake .. | .close | .closeForShutdown | .updateSendWindow _
  | .handleStopSendingFrame _ | .popStreamFrame _ | .getControlFrame | .ackFrame _ | .loseFrame _
  | .ackReset _ | .loseReset _ | .updateConnectionWindow _ | .othersSend _ => .isTrue trivial

/-- A RESET_STREAM frame that was emitted or is to be emitted. -/
def HasReset (l : SendLink) (r : ResetStreamFrame) : Prop :=
  r ∈ l.resets ∨ r ∈ l.resetsInFlight ∨ l.stream.queuedResetStreamFrame = some r

/-- The final size is the write offset from the reset or the FIN on. -/
structure Final (l : SendLink) : Prop where
  bytesSent : l.stream.flowController.stream.bytesSent = l.stream.writeOffset
  window : l.stream.writeOffset ≤ l.stream.flowController.stream.sendWindow
  frames : ∀ f, l.Has f → Within l.stream f
  resets : ∀ r, l.HasReset r → l.stream.resetErr.isSome ∧ r.finalSize = l.stream.writeOffset
  finSent : l.stream.finSent = true → l.stream.finishedWriting = true ∧ l.stream.unsent = []
  reliable : l.stream.resetErr.isSome → SentReliable l.stream

variable {f : StreamFrame} {s : SendStream}

/-- A frame that is cut keeps its FIN bit, so the FIN must not be behind the cut. -/
theorem Within.cut {f f' : StreamFrame} (hf : Within s f) (hs : SentReliable s)
    (hcut : SendStream.cutFrame s.reliableOffset f = some f') : Within s f' := by
  unfold SendStream.cutFrame at hcut
  split at hcut
  · cases hcut
  · next hbefore =>
    split at hcut
    · next hbeyond =>
      cases hcut
      rw [StreamFrame.dataLen] at hbeyond
      have hstop := hf.1
      refine ⟨?_, fun hfin => ?_⟩
      · simp only [StreamFrame.stop, List.length_take] at hstop ⊢
        omega
      · obtain ⟨hsent, hend⟩ := hf.2 hfin
        rw [StreamFrame.stop] at hend
        rcases hs.2 hsent with hzero | hall <;> omega
    · cases hcut
      exact hf

/-! ## changes -/

theorem Final.noResets (hl : l.Final) (hreset : l.stream.resetErr = none) (r : ResetStreamFrame) :
    ¬ l.HasReset r := by
  intro hr
  have hsome := (hl.resets r hr).1
  rw [hreset] at hsome
  cases hsome

theorem Final.reset (hl : l.Final) (hb : l.stream.Buffered) (hreset : l.stream.resetErr = none)
    (hsent : SentReliable l.stream) (errorCode : Nat) : Final { l with
      stream := { l.stream.afterReset errorCode with cancellationFlagged := true } } := by
  refine { hl with
    frames := fun f hf => ?_, resets := fun r hr => ?_, finSent := fun hfin => ?_,
    reliable := fun _ => hsent }
  · rcases hf with hf | hf | hf
    · exact hl.frames f (.inl hf)
    · exact hl.frames f (.inr (.inl hf))
    · obtain ⟨g, hg, hcut⟩ := List.mem_filterMap.mp hf
      exact (hl.frames g (.inr (.inr hg))).cut hsent hcut
  · refine ⟨rfl, ?_⟩
    rcases hr with hr | hr | hr
    · exact absurd (.inl hr) (hl.noResets hreset r)
    · exact absurd (.inr (.inl hr)) (hl.noResets hreset r)
    · cases hr
      exact Nat.max_eq_left hsent.1
  · obtain ⟨hclosed, hunsent⟩ := hl.finSent hfin
    rw [SendStream.unsent_eq_nil_iff hb] at hunsent
    refine ⟨hclosed, ?_⟩
    simp [SendStream.unsent, hunsent.1, hunsent.2]

theorem Final.stopSending (hl : l.Final) (err : StreamError) :
    Final { l with stream := l.stream.afterStop err } := by
  have hzero : SendStream.reliableOffset { l.stream with reliableSize := 0 } = 0 := by
    unfold SendStream.reliableOffset
    split <;> rfl
  refine { hl with
    frames := fun f hf => ?_, resets := fun r hr => ⟨rfl, ?_⟩, finSent := fun hfin => ?_,
    reliable := fun _ => ⟨?_, fun _ => .inl hzero⟩ }
  · rcases hf with hf | hf | hf
    · exact hl.frames f (.inl hf)
    · exact hl.frames f (.inr (.inl hf))
    · cases hf
  · rcases hr with hr | hr | hr
    · exact (hl.resets r (.inl hr)).2
    · exact (hl.resets r (.inr (.inl hr))).2
    · cases hr
      rfl
  · obtain ⟨hclosed, hunsent⟩ := hl.finSent hfin
    exact ⟨hclosed, (List.append_eq_nil_iff.mp hunsent).2⟩
  · exact hzero.trans_le (Nat.zero_le _)

/-- A frame of the queue is emitted again, whole or in part. -/
theorem Final.resend (hl : l.Final) {counter : Int} {queue fresh : List StreamFrame}
    (hf : Within l.stream f) (hqueue : ∀ g ∈ queue, Within l.stream g) :
    Final (l.emitted
      { l.stream with numOutstandingFrames := counter, retransmissionQueue := queue } f fresh) := by
  refine { hl with frames := fun g hg => ?_ }
  rcases has_emit hg with hg | rfl | hg
  · exact hl.frames g hg
  · exact hf
  · exact hqueue g hg

section

variable {counter : Int} {i : Nat} {r r' : ResetStreamFrame}

theorem hasReset_emit (hr' : l.stream.queuedResetStreamFrame = some r') (hr : HasReset { l with
      stream := { l.stream with numOutstandingFrames := counter, queuedResetStreamFrame := none }
      resetsInFlight := l.resetsInFlight ++ [r']
      resets := l.resets ++ [r'] } r) : l.HasReset r := by
  simp only [HasReset, List.mem_append, List.mem_singleton] at hr ⊢
  grind

theorem hasReset_requeue (hr' : l.resetsInFlight[i]? = some r') (hr : HasReset { l with
      stream := { l.stream with numOutstandingFrames := counter, queuedResetStreamFrame := some r' }
      resetsInFlight := l.resetsInFlight.eraseIdx i } r) : l.HasReset r := by
  rcases hr with hr | hr | hr
  · exact .inl hr
  · exact .inr (.inl (List.mem_of_mem_eraseIdx hr))
  · cases hr
    exact .inr (.inl (List.mem_of_getElem? hr'))

theorem hasReset_settle {acked : List ResetStreamFrame} (hr : HasReset { l with
      stream := { l.stream with numOutstandingFrames := counter }
      resetsInFlight := l.resetsInFlight.eraseIdx i
      ackedResets := acked } r) : l.HasReset r := by
  rcases hr with hr | hr | hr
  · exact .inl hr
  · exact .inr (.inl (List.mem_of_mem_eraseIdx hr))
  · exact .inr (.inr hr)

end

variable {fresh : List StreamFrame}

/-- Before the stream is reset and before the FIN, the final size is open. -/
theorem Final.sendNext (hl : l.Final)
    (hreset : l.stream.resetErr = none) (hended : l.stream.finSent = false)
    (hoffset : f.offset = l.stream.writeOffset)
    (hwrite : s.writeOffset = l.stream.writeOffset + f.data.length)
    (hqueue : s.retransmissionQueue = []) (hs : s.resetErr = none)
    (hcontrol : s.queuedResetStreamFrame = l.stream.queuedResetStreamFrame)
    (hfin : s.finSent = f.fin) (hclosed : f.fin = true → s.finishedWriting = true ∧ s.unsent = [])
    (hbytes : s.flowController.stream.bytesSent = s.writeOffset)
    (hwindow : s.writeOffset ≤ s.flowController.stream.sendWindow) :
    Final (l.emitted s f fresh) where
  bytesSent := hbytes
  window := hwindow
  frames := by
    intro g hg
    rcases has_emit hg with hg | rfl | hg
    · obtain ⟨hstop, hgfin⟩ := hl.frames g hg
      refine ⟨?_, fun h => ?_⟩
      · dsimp only
        omega
      · rw [(hgfin h).1] at hended
        cases hended
    · have hstop : g.stop = s.writeOffset := by rw [StreamFrame.stop, hoffset, hwrite]
      exact ⟨Nat.le_of_eq hstop, fun h => ⟨hfin.trans h, hstop⟩⟩
    · rw [hqueue] at hg
      cases hg
  resets := by
    intro r hr
    refine absurd ?_ (hl.noResets hreset r)
    rcases hr with hr | hr | hr
    · exact .inl hr
    · exact .inr (.inl hr)
    · exact .inr (.inr (hcontrol.symm.trans hr))
  finSent := fun h => hclosed (hfin.symm.trans h)
  reliable := fun h => by
    rw [hs] at h
    cases h

theorem Final.pop (hl : l.Final) (hpops : l.stream.Pops s (some f)) :
    Final
      (l.emitted { s with numOutstandingFrames := s.numOutstandingFrames + 1 } f fresh) := by
  have hqueued : ∀ {queue : List StreamFrame}, l.stream.retransmissionQueue = queue →
      ∀ g ∈ queue, Within l.stream g := by
    intro queue hqueue g hg
    rw [← hqueue] at hg
    exact hl.frames g (.inr (.inr hg))
  cases hpops with
  | again f rest hqueue =>
    have hmem := hqueued hqueue
    exact hl.resend (hmem f List.mem_cons_self) fun g hg => hmem g (List.mem_cons_of_mem f hg)
  | part f rest n hqueue hpos hle =>
    have hmem := hqueued hqueue
    have hf := hmem f List.mem_cons_self
    refine hl.resend (hf.front n) fun g hg => ?_
    rcases List.mem_cons.mp hg with rfl | hg
    · exact hf.behind hle
    · exact hmem g (List.mem_cons_of_mem f hg)
  | fin hempty hdata hnext hclosed hnew hreset =>
    have hunsent : l.stream.unsent = [] := by simp [SendStream.unsent, hdata, hnext]
    have hnone : l.stream.resetErr = none := by
      rw [← Option.not_isSome_iff_eq_none]
      intro hsome
      have hbelow := hreset hsome
      have hsent := (hl.reliable hsome).1
      omega
    exact hl.sendNext hnone hnew rfl rfl hempty hnone rfl rfl (fun _ => ⟨hclosed, hunsent⟩)
      hl.bytesSent hl.window
  | new s f hnew =>
    have hpos := List.length_pos_of_ne_nil hnew.nonempty
    have hnone : l.stream.resetErr = none := by
      rw [← Option.not_isSome_iff_eq_none]
      intro hsome
      have hbelow := hnew.reliable hsome
      have hsent := (hl.reliable hsome).1
      omega
    have hended : l.stream.finSent = false := by
      refine Bool.eq_false_of_not_eq_true fun hfin => hnew.nonempty ?_
      have hunsent := hnew.unsent
      rw [(hl.finSent hfin).2] at hunsent
      exact (List.append_eq_nil_iff.mp hunsent.symm).1
    have hwithin := hnew.spent.within hpos hnew.window
    have hspent := hnew.spent.bytesSent
    have hfin := hnew.fin
    obtain ⟨nextFrame, dataForWriting, writeSignal, flowController, rfl⟩ := hnew.same
    rw [hl.bytesSent] at hspent
    refine hl.sendNext hnone hended hnew.offset rfl hnew.noRetransmissions hnone rfl ?_ ?_ hspent
      (hspent ▸ hwithin.1)
    · dsimp only
      rw [hended, Bool.false_or]
    · intro h
      rw [h, eq_comm, Bool.and_eq_true, Bool.and_eq_true] at hfin
      exact ⟨hfin.1.1, List.isEmpty_iff.mp hfin.1.2⟩

theorem Final.change (hl : l.Final) (hs : l.Sound) (h : Change KeepsFinalSize l l') : l'.Final := by
  cases h with
  | signal | finish => exact { hl with }
  | start p hp hwriting hreset hshutdown hopen hdata =>
    refine { hl with finSent := fun hfin => ?_ }
    have hclosed := (hl.finSent hfin).1
    rw [hopen] at hclosed
    cases hclosed
  | buffer f hoffset hne hdata =>
    exact { hl with finSent := fun hfin => absurd (hdata.trans (hl.finSent hfin).2) hne }
  | giveBack =>
    refine { hl with finSent := fun hfin => ?_ }
    obtain ⟨hclosed, hunsent⟩ := hl.finSent hfin
    refine ⟨hclosed, List.append_eq_nil_iff.mpr ⟨?_, rfl⟩⟩
    exact (List.append_eq_nil_iff.mp hunsent).1
  | close hshutdown => exact { hl with finSent := fun hfin => ⟨rfl, (hl.finSent hfin).2⟩ }
  | setReliableBoundary hG =>
    refine { hl with reliable := fun hsome => ?_ }
    have hsize : SendStream.reliableOffset { l.stream with
          reliableSize := l.stream.writeOffset + l.stream.bufferedLen } = 0 ∨
        SendStream.reliableOffset { l.stream with
          reliableSize := l.stream.writeOffset + l.stream.bufferedLen } = l.stream.writeOffset := by
      unfold SendStream.reliableOffset
      rcases hG with h | h | h
      · rw [h] at hsome
        cases hsome
      · simp [h]
      · simp only [SendStream.bufferedLen, h, Option.map_none, Option.getD_none, Nat.add_zero]
        split
        · exact .inr rfl
        · exact .inl rfl
    refine ⟨?_, fun _ => hsize⟩
    rcases hsize with h | h
    · exact h.trans_le (Nat.zero_le _)
    · exact Nat.le_of_eq h
  | reset errorCode hG hshutdown hreset =>
    exact hl.reset hs.buffered hreset (hG hreset) errorCode
  | enableResetStreamAt hG =>
    refine { hl with reliable := fun hsome => ?_ }
    rw [show l.stream.resetErr = none from hG] at hsome
    cases hsome
  | shutdown hG hshutdown hopen =>
    refine { hl with frames := fun f hf => ?_, finSent := fun hfin => ?_ }
    · rcases hf with hf | hf | hf
      · exact hl.frames f (.inl hf)
      · exact hl.frames f (.inr (.inl hf))
      · cases hf
    · have hclosed := (hl.finSent hfin).1
      rw [hopen] at hclosed
      cases hclosed
  | widen c hc =>
    exact { hl with
      bytesSent := hc.bytesSent.trans hl.bytesSent, window := hl.window.trans hc.sendWindow }
  | stopSending errorCode hG hshutdown habandoned err => exact hl.stopSending err
  | pop s f hshutdown habandoned hpops => exact hl.pop hpops
  | getControlFrame f hf =>
    exact { hl with resets := fun r hr => hl.resets r (hasReset_emit hf hr) }
  | ackLate | ack | loseLate | drop =>
    exact { hl with frames := fun g hg => hl.frames g (has_settle hg) }
  | requeue i f f' hf habandoned hcut =>
    refine { hl with frames := fun g hg => ?_ }
    rcases has_requeue hg with hg | rfl
    · exact hl.frames g hg
    · have hf := hl.frames f (has_of_inFlight hf)
      rcases hcut with ⟨-, rfl⟩ | ⟨hreset, hcut⟩
      · exact hf
      · have hcut := hf.cut (hl.reliable hreset) hcut
        exact hcut
  | ackResetLate | ackReset | loseResetLate =>
    exact { hl with resets := fun r hr => hl.resets r (hasReset_settle hr) }
  | loseReset i f hf hsize =>
    exact { hl with resets := fun r hr => hl.resets r (hasReset_requeue hf hr) }

/-! ## runs -/

theorem Final.completes (hl : l.Final) (h : Completes l l') : l'.Final := by
  rw [h.result]
  exact { hl with }

theorem final_new (streamID sendWindow : Nat) (connection : ConnectionFlowController)
    (supports : Bool) : Final (new streamID sendWindow connection supports) where
  bytesSent := rfl
  window := Nat.zero_le _
  frames := by
    rintro f (hf | hf | hf) <;> cases hf
  resets := by
    rintro r (hr | hr | hr) <;> cases hr
  finSent := fun h => by cases h
  reliable := fun h => by cases h

/-- **The final size is consistent** in every state that is reached by calls that keep it. -/
theorem sendLink_finalSizeAgrees (streamID sendWindow : Nat)
    (connection : ConnectionFlowController) (supports : Bool)
    (h : Reaches step KeepsFinalSize (new streamID sendWindow connection supports) l) :
    l.FinalSizeAgrees := by
  obtain ⟨-, hl⟩ := reaches_invariant
    ⟨sound_new streamID sendWindow connection supports,
      final_new streamID sendWindow connection supports⟩
    (fun _ _ hs hl h => hl.change hs h) (fun _ _ _ hl h => hl.completes h) h
  exact ⟨l.stream.writeOffset, fun r hr => (hl.resets r (.inl hr)).2,
    fun f hf hfin => ((hl.frames f (.inl hf)).2 hfin).2, fun f hf => (hl.frames f (.inl hf)).1,
    hl.window⟩

/-- A stream that is reset when its reliable part was sent, and a frame is lost. -/
def sentThenReset : List Op :=
  [.write [1, 2, 3] false false, .popStreamFrame 50, .setReliableBoundary, .cancelWrite 7,
    .getControlFrame, .loseFrame 0, .popStreamFrame 50, .handleStopSendingFrame 9,
    .getControlFrame]

theorem sentThenReset_finalSizeAgrees :
    ∃ l, sentThenReset.foldlM step (new 4 10 { ConnectionFlowController.new 0 0 with
        sendWindow := 100 } true) = .ok l ∧
      l.resets.map ResetStreamFrame.reliableSize = [3, 0] ∧ l.FinalSizeAgrees := by
  refine ⟨_, rfl, by decide, ?_⟩
  exact sendLink_finalSizeAgrees 4 10
    { ConnectionFlowController.new 0 0 with sendWindow := 100 } true
    (reaches_foldlM sentThenReset (by decide) rfl .refl)

/-- Half of the reliable part does not fit the window when the stream is reset. -/
def promisedTooMuch : List Op :=
  [.write (List.replicate 20 1) false false, .setReliableBoundary, .popStreamFrame 50,
    .cancelWrite 7, .getControlFrame, .handleStopSendingFrame 9, .getControlFrame]

/-- The first final size is beyond the window, and the second is another one. -/
theorem promisedTooMuch_finalSizes :
    ∃ l, promisedTooMuch.foldlM step (new 4 10 { ConnectionFlowController.new 0 0 with
        sendWindow := 100 } true) = .ok l ∧
      l.stream.flowController.stream.sendWindow = 10 ∧
      l.resets.map ResetStreamFrame.finalSize = [20, 10] ∧ ¬ l.FinalSizeAgrees := by
  refine ⟨_, rfl, rfl, rfl, ?_⟩
  rintro ⟨n, hresets, -⟩
  have hfirst : 20 = n := hresets _ List.mem_cons_self
  have hsecond : 10 = n := hresets _ (List.mem_cons_of_mem _ List.mem_cons_self)
  omega

end SendLink

end MoqQuic.Quic
