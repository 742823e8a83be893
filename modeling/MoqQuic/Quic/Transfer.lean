import MoqQuic.Quic.ReceiveStream.Delivery
import MoqQuic.Quic.SendStream.Transmission

/-!
# MoqQuic.Quic.Transfer

A send stream and the receive stream of the peer. The network loses, repeats and reorders frames.
-/

namespace MoqQuic.Quic.Transfer

open Machine Parse ReceiveLink

/-- The frames that arrive were sent, and nobody gives up the stream. -/
def Carries {κ : Type} (sent : List StreamFrame) (_ : ReceiveLink κ) : Op κ → Prop
  | .streamFrame frame _ _ => frame ∈ sent
  | .resetStreamFrame .. | .cancelRead .. | .closeForShutdown => False
  | _ => True

theorem slice_of_isPrefix {data bytes : Bytes} {i : Nat} (h : data <+: bytes.drop i) :
    slice (bytes[·]?.getD 0) i data.length = data := by
  obtain ⟨rest, h⟩ := h
  refine List.ext_getElem (by simp) fun j _ hj => ?_
  have hget : (bytes.drop i)[j]? = data[j]? := by grind
  simp_all [slice]

section

variable {κ : Type} {l : SendLink} {r : ReceiveLink κ}
  (streamID sendWindow receiveWindow maxReceiveWindow : Nat)
  (connection connection' : ConnectionFlowController) (supports : Bool)
  (hr : Reaches step (Carries l.sent)
    (.new κ streamID receiveWindow maxReceiveWindow connection') r)

include hr

/-- To the receiver, the stream may go on behind what is transmitted until the FIN is sent. -/
theorem delivers_transmitted {granted : Prop} (hl : l.Transmits granted) {n : Nat}
    (hn : l.stream.writeOffset ≤ n)
    (hfin : l.stream.finSent = true → n = l.stream.writeOffset) :
    Delivers (l.transmitted[·]?.getD 0) n r := by
  refine InStep.delivers (hr.invariant (inStep_new _ n ..) fun _ op _ h hop => h.step ?_)
  cases op with
  | streamFrame f =>
    obtain ⟨hcarries, hstop, hend⟩ := hl.frames f (.inl hop)
    exact ⟨(slice_of_isPrefix hcarries).symm, hstop.trans hn,
      by grind [StreamFrame.stop, StreamFrame.dataLen]⟩
  | _ => exact hop

/-- **Transfer**: whatever the network does, the bytes that are read are the first ones of those
that were written. `io.EOF` comes only after `Close`, when all of them are read. When everything
that was transmitted has arrived, a `Read` returns new bytes as long as there are any, and then
`io.EOF` if the FIN was sent. -/
theorem transfer_reliable
    (hl : Reaches SendLink.step SendLink.NotCancelled
      (.new streamID sendWindow connection supports) l) :
    r.delivered <+: l.written ∧
      (∀ data, r.output = some (.read data (some .eof)) →
        l.stream.finishedWriting = true ∧ r.delivered = l.written) ∧
      ((∀ x < l.transmitted.length, x ∈ r.received) → (l.stream.finSent = true → r.FinReceived) →
        r.delivered ≠ l.transmitted ∨ l.stream.finSent = true → r.waiting = none →
          ∀ len deadline, 0 < len → deadline ≠ some 0 → ∃ r' data err,
            r.step (.read len deadline) = .ok r' ∧ r'.output = some (.read data err) ∧
              (data = [] → err = some .eof)) := by
  obtain ⟨-, hl⟩ := SendLink.reaches_invariant ⟨SendLink.sound_new .., SendLink.transmits_new ..⟩
    (fun _ _ _ hl h => hl.change h) (fun _ _ _ hl h => hl.completes h) hl
  have hall := slice_of_isPrefix (List.prefix_refl (l.transmitted.drop 0))
  rw [List.drop_zero, hl.length] at hall
  obtain ⟨hread, hnext, heof, hended, -⟩ := delivers_transmitted _ _ _ _ hr hl le_rfl fun _ => rfl
  rw [hall] at hread heof
  obtain ⟨dropped, hwritten, hdropped⟩ := hl.written
  refine ⟨hread.trans (by simp [hwritten]), fun data hout => ?_, ?_⟩
  · by_cases hfin : l.stream.finSent = true
    · obtain ⟨hclosed, hunsent, hshutdown⟩ := hl.finSent hfin
      simp [hclosed, heof data hout, hwritten, hunsent, hdropped hshutdown]
    · -- the same stream with one more byte would give another length
      have hlonger := (delivers_transmitted _ _ _ _ hr hl (Nat.le_succ _) (absurd · hfin)).eof data hout
      simpa [heof data hout, hl.length] using congrArg List.length hlonger.1
  · intro harrived hfin hmore hwaiting len deadline hlen hdeadline
    by_cases hlt : r.delivered.length < l.transmitted.length
    · obtain ⟨r', data, err, hstep, hout, hne⟩ := hnext hwaiting (harrived _ hlt) len deadline hlen
        hdeadline
      exact ⟨r', data, err, hstep, hout, (absurd · hne)⟩
    · have hsame := hread.eq_of_length_le (not_lt.mp hlt)
      obtain ⟨r', hstep, hout⟩ := hended (hsame ▸ hl.length)
        (hfin (hmore.resolve_left (not_not.mpr hsame))) hwaiting len deadline hlen hdeadline
      exact ⟨r', [], _, hstep, hout, fun _ => rfl⟩

end

/-- The FIN arrives first. -/
def finFirst : List (Op Nat) :=
  [.streamFrame { streamID := 4, offset := 3, fin := true } none 0,
    .streamFrame { streamID := 4, offset := 0, data := [1, 2, 3] } none 0, .read 5 none]

theorem finFirst_reliable : ∃ (l : SendLink) (r : ReceiveLink Nat),
    finFirst.foldlM step (.new Nat 4 100 100 (.new 100 100)) = .ok r ∧ r.delivered = l.written := by
  refine ⟨_, _, rfl, ((transfer_reliable 4 100 100 100
    { ConnectionFlowController.new 0 0 with sendWindow := 100 } (.new 100 100) true
    (reaches_foldlM finFirst ?_ rfl .refl)
    (reaches_foldlM SendLink.lossyTransfer (by decide) rfl .refl)).2.1 _ rfl).2⟩
  exact ⟨List.mem_of_getElem? (i := 2) rfl, fun _ _ =>
    ⟨List.mem_of_getElem? (i := 0) rfl, fun _ _ => ⟨trivial, fun _ _ => trivial⟩⟩⟩

end MoqQuic.Quic.Transfer
