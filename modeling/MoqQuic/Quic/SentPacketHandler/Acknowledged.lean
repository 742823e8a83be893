import Mathlib.Data.List.Nodup
import MoqQuic.Quic.SentPacketHandler.AckRanges
import MoqQuic.Quic.SentPacketHandler.Quiet

/-!
# MoqQuic.Quic.SentPacketHandler.Acknowledged

An ACK, in a handler that has sent no path probes.

The packets that the frame acknowledges leave their history (`Taken`), in one loop over the
candidates and one over those that were collected. If no other packet is deemed lost, exactly
they are told to the congestion controller (`Plain.receivedAck`).
-/

namespace MoqQuic.Quic.SentPacketHandler

open Outcome SentPacketHistory BbrSender

variable {φ : Type} {h h' : SentPacketHandler φ} {encLevel : EncryptionLevel}
  {space space' : PacketNumberSpace φ}

/-! ## acknowledgements -/

/-- Packets that are no stubs are collected as they are. -/
theorem foldl_add_plain (packets : List (NumberedPacket φ))
    (hplain : ∀ e ∈ packets, e.2.isPathProbePacket = false) :
    ∀ c : Collecting φ, packets.foldl Collecting.add c =
      { c with
        hasAckEliciting := c.hasAckEliciting || packets.any fun e => e.2.isAckEliciting
        ackedPackets := c.ackedPackets ++ packets } := by
  induction packets with
  | nil => simp
  | cons e packets ih =>
    intro c
    rw [List.foldl_cons, ih fun e' he' => hplain e' (List.mem_cons_of_mem e he')]
    simp [Collecting.add, hplain e List.mem_cons_self, Bool.or_assoc]

/-- A space that is changed twice. -/
theorem getPacketNumberSpace_set_congr
    (hspaces : ∀ level, h'.getPacketNumberSpace level =
      (h.setPacketNumberSpace encLevel space).getPacketNumberSpace level)
    (space' : PacketNumberSpace φ) (level : EncryptionLevel) :
    (h'.setPacketNumberSpace encLevel space').getPacketNumberSpace level =
      (h.setPacketNumberSpace encLevel space').getPacketNumberSpace level := by
  have hlevel := hspaces level
  cases encLevel <;> cases level <;> first | rfl | exact hlevel

/-- The packets have left the space, which is `space'` now; nothing was told that concerns the
send times. -/
structure Taken (h : SentPacketHandler φ) (encLevel : EncryptionLevel)
    (space : PacketNumberSpace φ) (packets : List (NumberedPacket φ))
    (space' : PacketNumberSpace φ) (g : SentPacketHandler φ) : Prop where
  spaces : ∀ level, g.getPacketNumberSpace level =
    (h.setPacketNumberSpace encLevel space').getPacketNumberSpace level
  plain : PlainSpace space'
  perm : space.history.iterate.Perm (packets ++ space'.history.iterate)
  skipped : space'.history.skippedPackets = space.history.skippedPackets
  largestAcked : space'.largestAcked = space.largestAcked
  calls : ∃ calls, g.calls = h.calls ++ calls ∧ ∀ c ∈ calls, Silent c

theorem silent_callHandlers (h : SentPacketHandler φ) (frames : List (SentFrame φ)) :
    ∃ calls, (h.callHandlers .onAcked frames).calls = h.calls ++ calls ∧ ∀ c ∈ calls, Silent c := by
  refine ⟨_, rfl, fun c hc => ?_⟩
  obtain ⟨f, -, rfl⟩ := List.mem_map.mp hc
  trivial

theorem silent_tellAcked (h : SentPacketHandler φ) (encLevel : EncryptionLevel) (p : Packet φ) :
    ∃ calls, (h.tellAcked encLevel p).calls = h.calls ++ calls ∧ ∀ c ∈ calls, Silent c := by
  unfold tellAcked
  dsimp only
  generalize hg : (if p.largestAcked ≠ InvalidPacketNumber ∧ encLevel = .oneRTT then
    h.call (.ignorePacketsBelow (p.largestAcked + 1)) else h) = g
  have hfirst : ∃ calls, g.calls = h.calls ++ calls ∧ ∀ c ∈ calls, Silent c := by
    rw [← hg]
    split
    · exact ⟨_, rfl, List.forall_mem_singleton.mpr trivial⟩
    · exact ⟨[], by simp, by simp⟩
  obtain ⟨calls, hcalls, hsilent⟩ := hfirst
  obtain ⟨calls', hcalls', hsilent'⟩ := silent_callHandlers g p.frames
  obtain ⟨calls'', hcalls'', hsilent''⟩ :=
    silent_callHandlers (g.callHandlers .onAcked p.frames) p.streamFrames
  refine ⟨calls ++ calls' ++ calls'', ?_, ?_⟩
  · rw [hcalls'', hcalls', hcalls]
    simp
  · exact List.forall_mem_append.mpr ⟨List.forall_mem_append.mpr ⟨hsilent, hsilent'⟩, hsilent''⟩

variable {packets : List (NumberedPacket φ)} {g : SentPacketHandler φ} {e : NumberedPacket φ}

/-- One packet more leaves the history. -/
theorem Taken.remove (ht : Taken h encLevel space packets space' g)
    (he : e ∈ space'.history.iterate) :
    Holds AnyPanic (fun result => ∃ space'' g', result = (g', none) ∧
        Taken h encLevel space (packets ++ [e]) space'' g' ∧ g'.ackedPackets = g.ackedPackets)
      (removeAcked encLevel (g, none) e) := by
  have hsame := g.sameBooks_tellAcked encLevel e.2
  have hget : (g.tellAcked encLevel e.2).getPacketNumberSpace encLevel = some space' := by
    rw [hsame.spaces, ht.spaces, getPacketNumberSpace_set_self]
  refine holds_derefPointer trivial fun found hfound => ?_
  cases hget.symm.trans hfound
  refine (ht.plain.wellFormed.remove he).any.bind fun result ⟨history, hr, hf⟩ => ?_
  subst hr
  rw [holds_pure]
  refine ⟨{ space' with history := history }, _, rfl,
    ⟨fun level => ?_, ?_, ?_, ?_, ht.largestAcked, ?_⟩, ?_⟩
  · exact getPacketNumberSpace_set_congr
      (fun level => (hsame.spaces level).trans (ht.spaces level)) _ level
  · refine ⟨hf.wellFormed, hf.aligned ht.plain.aligned,
      hf.pathProbePackets.trans ht.plain.probes, fun e' he' => ?_, ht.plain.next⟩
    exact ht.plain.stubs e' (hf.perm.mem_iff.mpr (List.mem_cons_of_mem e he'))
  · rw [List.append_assoc]
    exact ht.perm.trans (hf.perm.append_left packets)
  · exact hf.skippedPackets.trans ht.skipped
  · obtain ⟨calls, hcalls, hsilent⟩ := ht.calls
    obtain ⟨calls', hcalls', hsilent'⟩ := g.silent_tellAcked encLevel e.2
    refine ⟨calls ++ calls', ?_, List.forall_mem_append.mpr ⟨hsilent, hsilent'⟩⟩
    rw [setHistory, calls_setPacketNumberSpace, hcalls', hcalls, List.append_assoc]
  · rw [setHistory, ackedPackets_setPacketNumberSpace]
    exact hsame.ackedPackets

theorem Taken.removeAll (ht : Taken h encLevel space [] space g)
    (hsub : packets.Sublist space.history.iterate) :
    Holds AnyPanic (fun result => result.2 = none ∧
        (∃ space', Taken h encLevel space packets space' result.1) ∧
        result.1.ackedPackets = g.ackedPackets)
      (packets.foldlM (removeAcked encLevel) (g, none)) := by
  have hnodup : packets.Nodup :=
    (List.Nodup.of_map _ space.history.iterate_nodup).sublist hsub
  refine (holds_foldlM (I := fun rest result => ∃ done space', packets = done ++ rest ∧
    result.2 = none ∧ Taken h encLevel space done space' result.1 ∧
    result.1.ackedPackets = g.ackedPackets) ?_ packets (g, none)
      ⟨[], space, rfl, rfl, ht, rfl⟩).imp fun result hresult => ?_
  · rintro e rest ⟨g', err⟩ ⟨done, space', heq, herr, htaken, hacked⟩
    cases herr
    have hmem : e ∈ space.history.iterate := hsub.subset (by simp [heq])
    have hnew : e ∉ done := fun hdone => by
      rw [heq] at hnodup
      exact (List.nodup_append.mp hnodup).2.2 e hdone e List.mem_cons_self rfl
    have hleft : e ∈ space'.history.iterate :=
      (List.mem_append.mp (htaken.perm.mem_iff.mp hmem)).resolve_left hnew
    refine (htaken.remove hleft).imp fun result hresult => ?_
    obtain ⟨space'', g'', rfl, htaken', hacked'⟩ := hresult
    exact ⟨done ++ [e], space'', by rw [heq, List.append_assoc, List.singleton_append], rfl,
      htaken', hacked'.trans hacked⟩
  · obtain ⟨done, space', heq, herr, htaken, hacked⟩ := hresult
    rw [List.append_nil] at heq
    subst heq
    exact ⟨herr, ⟨space', htaken⟩, hacked⟩

/-- The packets that the frame acknowledges leave the history. -/
theorem Plain.detectAndRemoveAckedPackets (hp : Plain h)
    (hs : h.getPacketNumberSpace encLevel = some space) (ack : AckFrame) :
    Holds AnyPanic (fun result =>
        (result.2.2.isSome = true ∧ Quiet h result.1) ∨
          (result.2.2 = none ∧ ∃ space', Taken h encLevel space
              (space.history.iterate.filter fun e => ack.acksPacket e.1) space' result.1 ∧
            result.1.ackedPackets = space.history.iterate.filter fun e => ack.acksPacket e.1))
      (h.detectAndRemoveAckedPackets ack encLevel) := by
  have hsame : Quiet h h := quiet_of_eq hp (fun _ => rfl) rfl
  have hplain := hp encLevel space hs
  unfold SentPacketHandler.detectAndRemoveAckedPackets
  split
  · exact .inl ⟨rfl, hsame⟩
  · refine holds_derefPointer trivial fun found hfound => ?_
    cases hs.symm.trans hfound
    split
    · exact .inl ⟨rfl, hsame⟩
    · dsimp only
      have hsub : ((space.history.iterate.takeWhile fun e =>
          decide (e.1 ≤ ack.largestAcked)).filter fun e =>
            decide (ack.lowestAcked ≤ e.1)).Sublist space.history.iterate :=
        List.filter_sublist.trans (List.takeWhile_sublist _)
      have hsorted := space.history.iterate_sorted
      have hbounds : ∀ e ∈ (space.history.iterate.takeWhile fun e =>
          decide (e.1 ≤ ack.largestAcked)).filter fun e => decide (ack.lowestAcked ≤ e.1),
          ack.lowestAcked ≤ e.1 ∧ e.1 ≤ ack.largestAcked := by
        intro e he
        obtain ⟨hmem, hlow⟩ := List.mem_filter.mp he
        have hhigh := List.mem_takeWhile_imp hmem
        exact ⟨by simpa using hlow, by simpa using hhigh⟩
      -- the loop collects the packets that are acknowledged
      obtain ⟨ranges, hcollected⟩ := foldl_collectAcked _
        { ranges := ack.ackRanges.reverse, history := space.history } rfl (hsorted.sublist hsub)
        hbounds (fun e _ => Walking.start ack e.1)
      rw [filter_candidates hsorted, foldl_add_plain _ fun e he =>
        hplain.stubs e (List.mem_of_mem_filter he)] at hcollected
      rw [hcollected]
      dsimp only
      rw [List.nil_append]
      rw [if_neg (by simp)]
      have hstart : Taken h encLevel space [] space
          { h.setHistory encLevel space space.history with
            ackedPackets := space.history.iterate.filter fun e => ack.acksPacket e.1 } := by
        refine ⟨fun _ => rfl, hplain, List.Perm.refl _, rfl, rfl, [], ?_, by simp⟩
        rw [List.append_nil]
        exact calls_setPacketNumberSpace _ _ _
      refine (hstart.removeAll List.filter_sublist).bind fun result ⟨herr, htaken, hacked⟩ => ?_
      obtain ⟨space', htaken⟩ := htaken
      exact .inr ⟨herr, space', htaken, hacked⟩

theorem difference_congr {history history' : SentPacketHistory φ}
    (hskipped : history'.skippedPackets = history.skippedPackets) (a b : PacketNumber) :
    history'.difference a b = history.difference a b := by
  unfold SentPacketHistory.difference
  rw [hskipped]

/-- What the congestion controller is told before losses are detected does not concern the send
times. -/
theorem silent_tellCongestion (h : SentPacketHandler φ) (ack : AckFrame)
    (encLevel : EncryptionLevel) (largestAcked : PacketNumber) (congested hasAckEliciting : Bool)
    (prior : Int) :
    ∃ calls, (h.tellCongestion ack encLevel largestAcked congested hasAckEliciting prior).calls =
        h.calls ++ calls ∧ ∀ c ∈ calls, Silent c := by
  unfold tellCongestion
  dsimp only
  split <;> split
  · refine ⟨[.maybeExitSlowStart, .onCongestionEvent ack.largestAcked 0 prior], ?_, by simp [Silent]⟩
    simp [call]
  · exact ⟨[.onCongestionEvent ack.largestAcked 0 prior], rfl, by simp [Silent]⟩
  · exact ⟨[.maybeExitSlowStart], rfl, by simp [Silent]⟩
  · exact ⟨[], by simp, by simp⟩

/-- Every packet that was in flight is told to be acknowledged. -/
theorem foldlM_finishAcked (hin : ∀ e ∈ packets, e.2.includedInBytesInFlight = true) (prior : Int)
    (t : Time) :
    ∀ h : SentPacketHandler φ, Holds AnyPanic (fun g =>
        (∀ level, g.getPacketNumberSpace level = h.getPacketNumberSpace level) ∧
          g.calls = h.calls ++ packets.map fun e => .onPacketAcked e prior t)
      (packets.foldlM (finishAcked prior t) h) := by
  induction packets with
  | nil => exact fun h => ⟨fun _ => rfl, (List.append_nil _).symm⟩
  | cons e packets ih =>
    intro h
    have hone : Holds AnyPanic (fun g =>
        (∀ level, g.getPacketNumberSpace level = h.getPacketNumberSpace level) ∧
          g.calls = h.calls ++ [.onPacketAcked e prior t]) (finishAcked prior t h e) := by
      unfold finishAcked removeFromBytesInFlight
      rw [if_pos (hin e List.mem_cons_self), if_pos (hin e List.mem_cons_self)]
      split
      · trivial
      · exact ⟨fun _ => rfl, rfl⟩
    rw [List.foldlM_cons]
    refine hone.bind fun g ⟨hspaces, hcalls⟩ => ?_
    refine (ih (fun e' he' => hin e' (List.mem_cons_of_mem e he')) g).imp
      fun g' ⟨hspaces', hcalls'⟩ => ?_
    refine ⟨fun level => (hspaces' level).trans (hspaces level), ?_⟩
    rw [hcalls', hcalls, List.append_assoc]
    rfl

theorem Taken.quiet (ht : Taken h encLevel space [] space' g) (hp : Plain h)
    (hs : h.getPacketNumberSpace encLevel = some space) : Quiet h g := by
  refine ⟨(hp.set ht.plain).congr ht.spaces, ?_, ht.calls⟩
  rw [live_congr (h := h.setPacketNumberSpace encLevel space') ht.spaces]
  exact (live_set [] [] hs ht.perm).symm

/-- The packets that are left are not those that were taken. -/
theorem Taken.not_taken {p : NumberedPacket φ → Bool}
    (ht : Taken h encLevel space (space.history.iterate.filter p) space' g)
    (he : e ∈ space'.history.iterate) : ¬ p e = true := by
  intro hp
  have hnodup := ht.perm.nodup_iff.mp (List.Nodup.of_map _ space.history.iterate_nodup)
  have hmem := ht.perm.mem_iff.mpr (List.mem_append_right _ he)
  exact (List.nodup_append.mp hnodup).2.2 e (List.mem_filter.mpr ⟨hmem, hp⟩) e he rfl

/-- Packets left one space and were told to be acknowledged. -/
theorem calm_of_acked (hp : Plain h) (hs : h.getPacketNumberSpace encLevel = some space)
    (hplain : PlainSpace space') (packets : List (NumberedPacket φ)) (calls : List (Call φ))
    (prior : Int) (t : Time)
    (hperm : space.history.iterate.Perm (packets ++ space'.history.iterate))
    (hspaces : ∀ level, h'.getPacketNumberSpace level =
      (h.setPacketNumberSpace encLevel space').getPacketNumberSpace level)
    (hcalls : h'.calls = h.calls ++ calls ++ packets.map fun e => .onPacketAcked e prior t)
    (hsilent : ∀ c ∈ calls, Silent c) : Calm h h' := by
  refine ⟨(hp.set hplain).congr hspaces, .acked packets calls prior t ?_ hcalls hsilent⟩
  rw [live_congr hspaces]
  exact live_set packets [] hs hperm

/-- The end of `ReceivedAck`. -/
theorem Taken.processAcked
    (ht : Taken h encLevel space packets space' g) (hacked : g.ackedPackets = packets)
    (hp : Plain h) (hs : h.getPacketNumberSpace encLevel = some space)
    (hin : ∀ e ∈ packets, e.2.includedInBytesInFlight = true) {ack : AckFrame} {rcvTime : Time}
    {lossDelay : Duration}
    (hnone : ∀ e ∈ space'.history.iterate,
      ¬ Overdue space (max space.largestAcked ack.largestAcked) rcvTime lossDelay e)
    (congested hasAckEliciting : Bool) (prior : Int) :
    Holds AnyPanic (Calm h)
      (g.processAcked ack encLevel rcvTime lossDelay congested hasAckEliciting prior) := by
  have hget : g.getPacketNumberSpace encLevel = some space' := by
    rw [ht.spaces, getPacketNumberSpace_set_self]
  refine holds_derefPointer trivial fun found hfound => ?_
  cases hget.symm.trans hfound
  dsimp only
  have hsame := g.sameBooks_tellCongestion ack encLevel space'.largestAcked congested
    hasAckEliciting prior
  obtain ⟨calls, hcalls, hsilent⟩ := g.silent_tellCongestion ack encLevel space'.largestAcked
    congested hasAckEliciting prior
  generalize g.tellCongestion ack encLevel space'.largestAcked congested hasAckEliciting prior =
    g₁ at hsame hcalls
  refine (rearmed_detectLostPackets (getPacketNumberSpace_set_self _ _ _) fun e he => ?_).bind
    fun g₂ hr => ?_
  · have hsafe := hnone e he
    simp only [Overdue, difference_congr ht.skipped, ht.largestAcked] at hsafe ⊢
    exact hsafe
  · obtain ⟨lossTime, rfl⟩ := hr
    rw [setPacketNumberSpace_set]
    generalize hspace₂ : ({ space' with
      lossTime := lossTime, largestAcked := _ } : PacketNumberSpace φ) = space₂
    have hplain₂ : PlainSpace space₂ := by
      rw [← hspace₂]
      exact { ht.plain with }
    have hspaces₂ := getPacketNumberSpace_set_congr
      (fun level => (hsame.spaces level).trans (ht.spaces level)) space₂
    have hcalls₂ := g₁.calls_setPacketNumberSpace encLevel space₂
    have hacked₂ : (g₁.setPacketNumberSpace encLevel space₂).ackedPackets = packets := by
      rw [ackedPackets_setPacketNumberSpace, hsame.ackedPackets, hacked]
    generalize g₁.setPacketNumberSpace encLevel space₂ = g₂ at hspaces₂ hcalls₂ hacked₂
    refine (detectLostPathProbesIf_plain ((hp.set hplain₂).congr hspaces₂) _ _).bind
      fun g hg => ?_
    subst hg
    rw [hacked₂]
    refine (foldlM_finishAcked hin prior rcvTime g).bind fun g₃ ⟨hspaces₃, hcalls₃⟩ => ?_
    have hspaces := fun level => (hspaces₃ level).trans (hspaces₂ level)
    obtain ⟨calls', hcalls', hsilent'⟩ := ht.calls
    refine calm_of_acked hp hs hplain₂ packets (calls' ++ calls) prior rcvTime ?_ hspaces ?_
      (List.forall_mem_append.mpr ⟨hsilent', hsilent⟩)
    · rw [← hspace₂]
      exact ht.perm
    · refine hcalls₃.trans ?_
      rw [hcalls₂, hcalls, hcalls', ← List.append_assoc]

theorem Calm.of_same {h₁ : SentPacketHandler φ} (hc : Calm h₁ h')
    (hspaces : ∀ level, h₁.getPacketNumberSpace level = h.getPacketNumberSpace level)
    (hcalls₁ : h₁.calls = h.calls) : Calm h h' := by
  have hlive₁ := live_congr hspaces
  refine ⟨hc.1, ?_⟩
  cases hc.2 with
  | quiet calls hlive hcalls hsilent =>
    exact .quiet calls (hlive₁ ▸ hlive) (hcalls₁ ▸ hcalls) hsilent
  | sent e inFlight bytes retransmittable hlive hcalls hnonneg hnew =>
    exact .sent e inFlight bytes retransmittable (hlive₁ ▸ hlive) (hcalls₁ ▸ hcalls) hnonneg
      (hlive₁ ▸ hnew)
  | acked packets calls prior t hlive hcalls hsilent =>
    exact .acked packets calls prior t (hlive₁ ▸ hlive) (hcalls₁ ▸ hcalls) hsilent
  | reset hlive hcalls => exact .reset hlive (hcalls₁ ▸ hcalls)

/-- An acknowledged packet was in flight, and the other packets are not deemed lost. -/
def Harmless (space : PacketNumberSpace φ) (ack : AckFrame) (rcvTime : Time)
    (lossDelay : Duration) (e : NumberedPacket φ) : Prop :=
  if ack.acksPacket e.1 then e.2.includedInBytesInFlight = true
  else ¬ Overdue space (max space.largestAcked ack.largestAcked) rcvTime lossDelay e

theorem Plain.receivedAck (hp : Plain h) {ack : AckFrame} {rcvTime : Time} {timing : Timing}
    (hharmless : ∀ space, h.getPacketNumberSpace encLevel = some space →
      ∀ e ∈ space.history.iterate, Harmless space ack rcvTime timing.lossDelay e)
    (congested : Bool) :
    Holds AnyPanic (fun result => Calm h result.1)
      (h.receivedAck ack encLevel rcvTime timing congested) := by
  refine holds_derefPointer trivial fun space hs => ?_
  have hall := hharmless space hs
  split
  · exact (quiet_of_eq hp (fun _ => rfl) rfl).calm
  · have hsame := h.sameBooks_completeAddressValidation
      (encLevel == .handshake || encLevel == .oneRTT)
    have hcalls := h.calls_completeAddressValidation
      (encLevel == .handshake || encLevel == .oneRTT)
    dsimp only
    generalize h.completeAddressValidation (encLevel == .handshake || encLevel == .oneRTT) =
      h₁ at hsame hcalls
    have hp₁ := hp.congr hsame.spaces
    have hs₁ := (hsame.spaces encLevel).trans hs
    refine (hp₁.detectAndRemoveAckedPackets hs₁ ack).bind fun result hresult => ?_
    obtain ⟨g, hasAckEliciting, err⟩ := result
    rcases hresult with ⟨herr, hquiet⟩ | ⟨herr, space', htaken, hacked⟩
    · rw [if_pos (by simp [show err.isSome = true from herr])]
      exact hquiet.calm.of_same hsame.spaces hcalls
    · cases herr
      by_cases hempty : g.ackedPackets.isEmpty = true
      · rw [if_pos (by simp [hempty])]
        rw [hacked, List.isEmpty_iff] at hempty
        rw [hempty] at htaken
        exact (htaken.quiet hp₁ hs₁).calm.of_same hsame.spaces hcalls
      · rw [if_neg (by simpa using hempty)]
        have hin : ∀ e ∈ space.history.iterate.filter fun e => ack.acksPacket e.1,
            e.2.includedInBytesInFlight = true := by
          intro e he
          obtain ⟨hmem, hacks⟩ := List.mem_filter.mp he
          have hharm := hall e hmem
          rw [Harmless, if_pos hacks] at hharm
          exact hharm
        have hnone : ∀ e ∈ space'.history.iterate, ¬ Overdue space
            (max space.largestAcked ack.largestAcked) rcvTime timing.lossDelay e := by
          intro e he
          have hharm := hall e (htaken.perm.mem_iff.mpr (List.mem_append_right _ he))
          rw [Harmless, if_neg] at hharm
          · exact hharm
          · exact htaken.not_taken he
        refine (htaken.processAcked hacked hp₁ hs₁ hin hnone congested hasAckEliciting _).bind
          fun g' hcalm => ?_
        exact hcalm.of_same hsame.spaces hcalls

end MoqQuic.Quic.SentPacketHandler
