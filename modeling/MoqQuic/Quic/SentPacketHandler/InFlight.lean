import MoqQuic.Quic.SentPacketHandler.Accounts

/-!
# MoqQuic.Quic.SentPacketHandler.InFlight

The books stay balanced: in every state that the handler can reach, the bytes in flight are
the lengths of the tracked packets that are included in them, and no call panics because they
would get negative or because a packet to retransmit has no frames.

Packets leave the flight from six calls, some of which go through a history while they remove
from it. Each loop is over the packets that were there when it started, so its invariant
(`foldlM_tracked`) is that those still to come are still tracked; their numbers differ, so
that a round does not touch them.
-/

namespace MoqQuic.Quic.SentPacketHandler

open Outcome SentPacketHistory

variable {φ : Type} {h h' : SentPacketHandler φ} {pending : Nat} {encLevel : EncryptionLevel}

/-- A pointer that is followed. -/
theorem holds_derefPointer {α β : Type} {E : HandlerPanic → Prop} {x : Option α}
    {f : α → Except HandlerPanic β} {Q : β → Prop} (hE : E .nilDereference)
    (hf : ∀ a, x = some a → Holds E Q (f a)) : Holds E Q (derefPointer x >>= f) := by
  cases x with
  | none => exact hE
  | some a => exact hf a rfl

/-! ## sending -/

variable {e : NumberedPacket φ}

/-- A packet enters the flight and its history. -/
theorem Balanced.send (hb : Balanced 0 h) {space space' : PacketNumberSpace φ}
    (hs : h.getPacketNumberSpace encLevel = some space)
    (hspaces : ∀ level, h'.getPacketNumberSpace level = h.getPacketNumberSpace level)
    (hbytes : h'.bytesInFlight = h.bytesInFlight + share e.2) (hw : WellFormed space'.history)
    (hiterate : space'.history.iterate = space.history.iterate ++ [e]) :
    Balanced 0 (h'.setPacketNumberSpace encLevel space') := by
  have hb' : Balanced (share e.2) h' := hb.of_spaces hspaces (by rw [hbytes]; simp)
  refine hb'.set ((hspaces encLevel).trans hs) hw ?_
  rw [hiterate, inFlight_append, inFlight_cons, inFlight_nil]
  omega

theorem Balanced.sentPacket (hb : Balanced 0 h) (a : SentArgs φ) :
    Holds Misuse (Balanced 0) (h.sentPacket a) := by
  refine holds_derefPointer trivial fun space hs => ?_
  have hw : WellFormed space.history := hb.wellFormed a.encLevel space hs
  dsimp only
  split
  · refine (hw.sentPathProbePacket a.pn rfl).bind ?_
    rintro history ⟨hw', pn, hiterate⟩
    exact hb.send hs (fun _ => rfl) (by simp [share]) hw' hiterate
  · next hprobe =>
    split
    · next hack =>
      have hp : a.isPathProbePacket = false := by simpa using hprobe
      have hsent := hw.sentPacket a.pn
        (p := { a.packet with includedInBytesInFlight := true }) fun _ => ⟨hp, hack⟩
      refine hsent.bind ?_
      rintro history ⟨hw', pn, hiterate⟩
      exact hb.send hs (fun _ => rfl) (by simp [call, share, SentArgs.packet]) hw' hiterate
    · have hsent := hw.sentPacket a.pn (p := a.packet) (by simp [SentArgs.packet])
      refine hsent.bind ?_
      rintro history ⟨hw', pn, hiterate⟩
      exact hb.send hs (fun _ => rfl) (by simp [call, share, SentArgs.packet]) hw' hiterate

theorem Balanced.popPacketNumber (hb : Balanced pending h) (encLevel : EncryptionLevel)
    (draw : Nat) :
    Holds Misuse (fun result => Balanced pending result.2) (h.popPacketNumber encLevel draw) := by
  refine holds_derefPointer trivial fun space hs => ?_
  dsimp only
  split
  · refine ((hb.wellFormed encLevel space hs).skippedPacket _).bind
      fun history ⟨hw', hiterate⟩ => ?_
    refine hb.set hs hw' ?_
    rw [hiterate]
  · exact hb.setSpace hs _ rfl

/-! ## loops over a history -/

theorem tracked_nodup (h : SentPacketHandler φ) (encLevel : EncryptionLevel) :
    ((h.tracked encLevel).map Prod.fst).Nodup := by
  unfold tracked
  split
  · exact List.nodup_nil
  · exact iterate_nodup _

/-- **A loop over tracked packets** whose rounds keep the books: a round for `e` may remove the
packets with the number of `e`, and no others. -/
theorem foldlM_tracked (encLevel : EncryptionLevel)
    {f : SentPacketHandler φ → NumberedPacket φ → Except HandlerPanic (SentPacketHandler φ)}
    (hround : ∀ h e, Balanced pending h → e ∈ h.tracked encLevel →
      Holds Misuse (fun h' => Balanced pending h' ∧ Keeps encLevel e h h') (f h e))
    (hb : Balanced pending h) (packets : List (NumberedPacket φ))
    (hsub : packets.Sublist (h.tracked encLevel)) :
    Holds Misuse (fun h' => Balanced pending h' ∧ h'.ackedPackets = h.ackedPackets)
      (packets.foldlM f h) := by
  have hnodup := (h.tracked_nodup encLevel).sublist (hsub.map Prod.fst)
  have hloop := holds_foldlM (E := Misuse) (f := f)
    (I := fun rest g => Balanced pending g ∧ (rest.map Prod.fst).Nodup ∧
      (∀ e ∈ rest, e ∈ g.tracked encLevel) ∧ g.ackedPackets = h.ackedPackets) ?_
    packets h ⟨hb, hnodup, fun e he => hsub.subset he, rfl⟩
  · exact hloop.imp fun h' ⟨hb', _, _, hacked⟩ => ⟨hb', hacked⟩
  · intro e rest g ⟨hb', hnodup', hsub', hacked⟩
    have hdistinct := List.nodup_cons.mp hnodup'
    refine (hround g e hb' (hsub' e List.mem_cons_self)).imp fun g' ⟨hbal, hkeeps⟩ => ?_
    refine ⟨hbal, hdistinct.2, fun e' he' => ?_, hkeeps.ackedPackets.trans hacked⟩
    refine hkeeps.tracked e' (hsub' e' (List.mem_cons_of_mem e he')) fun hsame => ?_
    exact hdistinct.1 (hsame ▸ List.mem_map_of_mem he')

/-! ## losses -/

theorem share_eq_zero {history : SentPacketHistory φ} (hw : WellFormed history)
    (he : e ∈ history.iterate)
    (hnot : ¬ (e.2.isPathProbePacket = false ∧ e.2.isAckEliciting = true)) : share e.2 = 0 := by
  rw [share, if_neg]
  exact fun hincluded => hnot (hw.included e he hincluded)

theorem Balanced.losePacket (hb : Balanced pending h) {space : PacketNumberSpace φ}
    (hs : h.getPacketNumberSpace encLevel = some space) (he : e ∈ space.history.iterate)
    (priorInFlight : Int) :
    Holds Misuse (fun h' => Balanced pending h' ∧ Keeps encLevel e h h')
      (losePacket encLevel priorInFlight h space e.1 e.2) := by
  have hw := hb.wellFormed encLevel space hs
  refine (hw.declareLost he).bind fun history hf => ?_
  obtain ⟨hb₁, hk₁⟩ := hb.forget hs hf
  dsimp only
  split
  · next hlost =>
    have hack : e.2.isAckEliciting = true := (Bool.and_eq_true_iff.mp hlost).2
    refine hb₁.remove.bind fun h₂ ⟨hb₂, hsame₂⟩ => ?_
    refine (sameBooks_queue h₂ hack).bind fun h₃ hsame₃ => ?_
    have hb₃ := hb₂.same hsame₃
    have hk₃ := (hk₁.same hsame₂).same hsame₃.toSameSpaces
    rw [holds_pure]
    split
    · exact ⟨hb₃, hk₃⟩
    · exact ⟨hb₃.same (sameBooks_call _ _), hk₃.same (sameBooks_call _ _).toSameSpaces⟩
  · next hstays =>
    -- what is not an ack-eliciting packet of its own was never in flight
    rw [share_eq_zero hw he (by simpa using hstays)] at hb₁
    exact ⟨hb₁, hk₁⟩

theorem Balanced.checkLost (hb : Balanced pending h) (he : e ∈ h.tracked encLevel) (now : Time)
    (lossDelay : Duration) (priorInFlight : Int) :
    Holds Misuse (fun h' => Balanced pending h' ∧ Keeps encLevel e h h')
      (checkLost now lossDelay encLevel priorInFlight h e) := by
  refine holds_derefPointer trivial fun space hs => ?_
  rw [tracked_of_some hs] at he
  dsimp only
  split
  · exact hb.losePacket hs he priorInFlight
  · split
    · refine ⟨hb.setSpace hs _ rfl, ?_, ackedPackets_setPacketNumberSpace h encLevel _⟩
      intro e' he' _
      rw [tracked_of_some (getPacketNumberSpace_set_self h encLevel _)]
      rwa [tracked_of_some hs] at he'
    · exact ⟨hb, fun e' he' _ => he', rfl⟩

@[simp] theorem bytesInFlight_setPacketNumberSpace (h : SentPacketHandler φ)
    (encLevel : EncryptionLevel) (space : PacketNumberSpace φ) :
    (h.setPacketNumberSpace encLevel space).bytesInFlight = h.bytesInFlight := by
  cases encLevel <;> rfl

section

variable (hb : Balanced pending h)

include hb

theorem Balanced.detectLostPackets (now : Time) (lossDelay : Duration)
    (encLevel : EncryptionLevel) :
    Holds Misuse (fun h' => Balanced pending h' ∧ h'.ackedPackets = h.ackedPackets)
      (h.detectLostPackets now lossDelay encLevel) := by
  refine holds_derefPointer trivial fun space hs => ?_
  have hloop := foldlM_tracked encLevel
    (fun g e hb' he => hb'.checkLost he now lossDelay h.bytesInFlight)
    (hb.setSpace hs { space with lossTime := 0 } rfl)
    (space.history.iterate.takeWhile fun e => decide (e.1 ≤ space.largestAcked)) ?_
  · simpa using hloop
  · rw [tracked_of_some (getPacketNumberSpace_set_self h encLevel _)]
    exact List.takeWhile_sublist _

/-! ## path probes -/

/-- Path probe packets are not in flight. -/
theorem Balanced.setPathProbes {probes : List (NumberedPacket φ)}
    (hsub : ∀ e ∈ probes, e ∈ h.appDataPackets.history.pathProbePackets) :
    Balanced pending (h.setHistory .oneRTT h.appDataPackets
      { h.appDataPackets.history with pathProbePackets := probes }) := by
  have hw := hb.wellFormed .oneRTT h.appDataPackets rfl
  refine hb.set rfl ⟨⟨hw.outstanding, hw.included, ?_⟩, hw.head⟩ rfl
  exact fun e he => hw.probes e (hsub e he)

theorem Balanced.detectLostPathProbes (now : Time) :
    Holds Misuse (fun h' => Balanced pending h' ∧ h'.ackedPackets = h.ackedPackets)
      (h.detectLostPathProbes now) := by
  refine holds_foldlM (I := fun _ g => Balanced pending g ∧ g.ackedPackets = h.ackedPackets)
    (fun e rest g hg => ?_) _ h ⟨hb, rfl⟩
  obtain ⟨hb', hacked⟩ := hg
  unfold losePathProbe
  split
  · refine ⟨(hb'.same (sameBooks_callHandlers g _ _)).setPathProbes fun e' he' => ?_, hacked⟩
    exact List.mem_of_mem_eraseP he'
  · trivial

theorem Balanced.detectLostPathProbesIf (condition : Bool) (now : Time) :
    Holds Misuse (fun h' => Balanced pending h' ∧ h'.ackedPackets = h.ackedPackets)
      (h.detectLostPathProbesIf condition now) := by
  unfold SentPacketHandler.detectLostPathProbesIf
  split
  · exact hb.detectLostPathProbes now
  · exact ⟨hb, rfl⟩

end

/-! ## acknowledgements -/

/-- What the loop of `detectAndRemoveAckedPackets` has collected from the packets it has been
through: numbers of tracked packets, each once, with the bytes that are in flight for them. -/
structure Collected (history : SentPacketHistory φ) (seen : List (NumberedPacket φ))
    (c : Collecting φ) : Prop where
  wellFormed : WellFormed c.history
  iterate : c.history.iterate = history.iterate
  numbers : (c.ackedPackets.map Prod.fst).Sublist (seen.map Prod.fst)
  shares : ∀ e ∈ c.ackedPackets, ∃ p, (e.1, p) ∈ history.iterate ∧ share p = share e.2

variable {history : SentPacketHistory φ} {seen : List (NumberedPacket φ)} {c : Collecting φ}

section

variable (hc : Collected history seen c)

include hc

theorem Collected.skip (e : NumberedPacket φ) : Collected history (seen ++ [e]) c where
  wellFormed := hc.wellFormed
  iterate := hc.iterate
  numbers := by
    rw [List.map_append]
    exact hc.numbers.trans (List.sublist_append_left _ _)
  shares := hc.shares

/-- A packet that is collected; for the stub of a path probe packet that is another one. -/
theorem Collected.push {c' : Collecting φ} {p : Packet φ}
    (he : e ∈ history.iterate) (hw : WellFormed c'.history)
    (hiterate : c'.history.iterate = c.history.iterate)
    (hacked : c'.ackedPackets = c.ackedPackets ++ [(e.1, p)]) (hshare : share e.2 = share p) :
    Collected history (seen ++ [e]) c' where
  wellFormed := hw
  iterate := hiterate.trans hc.iterate
  numbers := by
    rw [hacked, List.map_append, List.map_append]
    exact hc.numbers.append (List.Sublist.refl _)
  shares := by
    rw [hacked]
    refine List.forall_mem_append.mpr ⟨hc.shares, List.forall_mem_singleton.mpr ?_⟩
    exact ⟨e.2, he, hshare⟩

theorem Collected.add (he : e ∈ history.iterate) : Collected history (seen ++ [e]) (c.add e) := by
  have hw := hc.wellFormed
  have hw' : WellFormed (c.history.removePathProbe e.1).2 :=
    ⟨⟨hw.outstanding, hw.included, fun e' he' => hw.probes e' (List.mem_of_mem_eraseP he')⟩,
      hw.head⟩
  unfold Collecting.add
  split
  · next hprobe =>
    split
    · next probe history' hfound =>
      obtain ⟨hprobe', rfl⟩ := Prod.mk.inj hfound
      obtain ⟨entry, hentry, rfl⟩ := Option.map_eq_some_iff.mp hprobe'
      refine hc.push he hw' rfl rfl ?_
      -- neither the stub nor the path probe packet is in flight
      rw [share_eq_zero hw (hc.iterate ▸ he) (by simp [hprobe]), share,
        hw.probes entry (List.mem_of_find?_eq_some hentry)]
      rfl
    · next history' hfound =>
      obtain ⟨-, rfl⟩ := Prod.mk.inj hfound
      exact ⟨hw', hc.iterate, (hc.skip e).numbers, hc.shares⟩
  · exact hc.push he hw rfl rfl rfl

theorem Collected.collectAcked (ack : AckFrame) (he : e ∈ history.iterate) :
    Collected history (seen ++ [e]) (collectAcked ack c e) := by
  unfold SentPacketHandler.collectAcked
  split
  · exact hc.skip e
  · split
    · split
      · exact hc.skip e
      · next r rest _ =>
        have hc' : Collected history seen { c with ranges := r :: rest } :=
          { hc with }
        dsimp only
        split
        · exact hc'.skip e
        · split
          · exact ⟨hc.wellFormed, hc.iterate, (hc.skip e).numbers, hc.shares⟩
          · exact hc'.add he
    · exact hc.add he

end

/-- The whole loop. -/
theorem Collected.foldl (ack : AckFrame) (hc : Collected history seen c)
    (packets : List (NumberedPacket φ)) (hsub : ∀ e ∈ packets, e ∈ history.iterate) :
    Collected history (seen ++ packets) (packets.foldl (SentPacketHandler.collectAcked ack) c) := by
  induction packets generalizing seen c with
  | nil => simpa using hc
  | cons e packets ih =>
    have hnext := ih (hc.collectAcked ack (hsub e List.mem_cons_self))
      fun e' he' => hsub e' (List.mem_cons_of_mem e he')
    simpa using hnext

theorem sameBooks_tellAcked (h : SentPacketHandler φ) (encLevel : EncryptionLevel)
    (p : Packet φ) : SameBooks h (h.tellAcked encLevel p) := by
  unfold tellAcked
  refine SameBooks.trans ?_ (sameBooks_callHandlers _ _ _)
  refine SameBooks.trans ?_ (sameBooks_callHandlers _ _ _)
  split
  · exact sameBooks_call h _
  · exact SameBooks.refl h

variable {packets : List (NumberedPacket φ)}

/-- **The acknowledged packets leave the history**: what is in flight for them is pending. -/
theorem Balanced.removeAcked (hb : Balanced 0 h)
    (hacked : h.ackedPackets = packets) (hnodup : (packets.map Prod.fst).Nodup)
    (hshares : ∀ e ∈ packets, ∃ p, (e.1, p) ∈ h.tracked encLevel ∧ share p = share e.2) :
    Holds Misuse (fun result => result.2 = none ∧ Balanced (inFlight packets) result.1 ∧
        result.1.ackedPackets = packets)
      (packets.foldlM (removeAcked encLevel) (h, none)) := by
  have hloop := holds_foldlM (E := Misuse) (f := SentPacketHandler.removeAcked encLevel)
    (I := fun rest result => result.2 = none ∧ result.1.ackedPackets = packets ∧
      (∃ q, Balanced q result.1 ∧ q + inFlight rest = inFlight packets) ∧
      (rest.map Prod.fst).Nodup ∧
      ∀ e ∈ rest, ∃ p, (e.1, p) ∈ result.1.tracked encLevel ∧ share p = share e.2) ?_
    packets (h, none) ⟨rfl, hacked, ⟨0, hb, Nat.zero_add _⟩, hnodup, hshares⟩
  · refine hloop.imp fun result ⟨herr, hacked', ⟨q, hq, hsum⟩, _⟩ => ⟨herr, ?_, hacked'⟩
    rw [← hsum]
    exact hq
  · rintro ⟨pn, p⟩ rest ⟨g, _⟩ ⟨rfl, hacked', ⟨q, hq, hsum⟩, hnodup', hshares'⟩
    have hsame := g.sameBooks_tellAcked encLevel p
    have hdistinct := List.nodup_cons.mp hnodup'
    obtain ⟨p', hp', hshare⟩ := hshares' (pn, p) List.mem_cons_self
    refine holds_derefPointer trivial fun space hs => ?_
    rw [hsame.spaces] at hs
    rw [tracked_of_some hs] at hp'
    refine ((hq.wellFormed encLevel space hs).remove hp').bind fun result ⟨history', hr, hf⟩ => ?_
    subst hr
    obtain ⟨hb', hkeeps⟩ := (hq.same hsame).forget ((hsame.spaces encLevel).trans hs) hf
    rw [holds_pure]
    refine ⟨rfl, hkeeps.ackedPackets.trans (hsame.ackedPackets.trans hacked'), ⟨_, hb', ?_⟩,
      hdistinct.2, fun e he => ?_⟩
    · rw [inFlight_cons] at hsum
      dsimp only at hsum hshare ⊢
      omega
    · obtain ⟨p'', hp'', hshare''⟩ := hshares' e (List.mem_cons_of_mem _ he)
      refine ⟨p'', hkeeps.tracked _ ?_ fun hsame' => ?_, hshare''⟩
      · rw [tracked_congr hsame.spaces]
        exact hp''
      · exact hdistinct.1 (List.mem_map.mpr ⟨e, he, hsame'⟩)

/-- **The acknowledged packets leave the flight**. -/
theorem Balanced.finishAcked
    (hb : Balanced (inFlight packets) h) (priorInFlight : Int) (rcvTime : Time) :
    Holds Misuse (Balanced 0) (packets.foldlM (finishAcked priorInFlight rcvTime) h) := by
  refine holds_foldlM (I := fun rest g => Balanced (inFlight rest) g)
    (fun e rest g hg => ?_) packets h hb
  rw [inFlight_cons, Nat.add_comm] at hg
  have hsame : SameBooks g (if e.2.includedInBytesInFlight then
      g.call (.onPacketAcked e priorInFlight rcvTime) else g) := by
    split
    · exact sameBooks_call g _
    · exact SameBooks.refl g
  exact (hg.same hsame).remove.imp fun g' hg' => hg'.1

theorem Balanced.detectAndRemoveAckedPackets (hb : Balanced 0 h) (ack : AckFrame)
    (encLevel : EncryptionLevel) :
    Holds Misuse (fun result =>
        (result.2.2.isSome = true ∧ Balanced 0 result.1) ∨
          (result.2.2 = none ∧ Balanced (inFlight result.1.ackedPackets) result.1))
      (h.detectAndRemoveAckedPackets ack encLevel) := by
  unfold SentPacketHandler.detectAndRemoveAckedPackets
  split
  · exact .inl ⟨rfl, hb⟩
  · refine holds_derefPointer trivial fun space hs => ?_
    split
    · exact .inl ⟨rfl, hb⟩
    · have hsub : (((space.history.iterate.takeWhile fun e =>
          decide (e.1 ≤ ack.largestAcked)).filter fun e =>
            decide (ack.lowestAcked ≤ e.1))).Sublist space.history.iterate :=
        List.filter_sublist.trans (List.takeWhile_sublist _)
      have hw := hb.wellFormed encLevel space hs
      have hstart : Collected space.history []
          { ranges := ack.ackRanges.reverse, history := space.history } :=
        ⟨hw, rfl, List.Sublist.refl _, by simp⟩
      have hc := hstart.foldl ack _ fun e he => hsub.subset he
      dsimp only
      generalize List.foldl (collectAcked ack) _ _ = c at hc ⊢
      have hb' : Balanced 0 (h.setHistory encLevel space c.history) :=
        hb.set hs hc.wellFormed (by rw [hc.iterate])
      have hb'' : Balanced 0 { h.setHistory encLevel space c.history with
          ackedPackets := c.ackedPackets } := hb'.of_spaces (fun _ => rfl) rfl
      split
      · next herr => exact .inl ⟨herr, hb''⟩
      · have hnodup := (space.history.iterate_nodup.sublist (hsub.map Prod.fst)).sublist hc.numbers
        refine (hb''.removeAcked rfl hnodup fun e he => ?_).bind
          fun result ⟨herr, hbal, hacked⟩ => ?_
        · obtain ⟨p, hp, hshare⟩ := hc.shares e he
          refine ⟨p, ?_, hshare⟩
          have htracked := tracked_of_some (getPacketNumberSpace_set_self h encLevel
            { space with history := c.history })
          rw [← hc.iterate] at hp
          exact htracked ▸ hp
        · refine .inr ⟨herr, ?_⟩
          rw [hacked]
          exact hbal

theorem sameBooks_tellCongestion (h : SentPacketHandler φ) (ack : AckFrame)
    (encLevel : EncryptionLevel) (largestAcked : PacketNumber) (congested hasAckEliciting : Bool)
    (priorInFlight : Int) : SameBooks h (h.tellCongestion ack encLevel largestAcked congested
      hasAckEliciting priorInFlight) := by
  have hfirst : ∀ b : Bool, SameBooks h (if b then h.call .maybeExitSlowStart else h) := by
    intro b
    cases b with
    | true => exact sameBooks_call h _
    | false => exact SameBooks.refl h
  unfold tellCongestion
  dsimp only
  split
  · exact (hfirst _).trans (sameBooks_call _ _)
  · exact hfirst _

theorem Balanced.processAcked (hb : Balanced (inFlight h.ackedPackets) h) (ack : AckFrame)
    (encLevel : EncryptionLevel) (rcvTime : Time) (lossDelay : Duration)
    (congested hasAckEliciting : Bool) (priorInFlight : Int) :
    Holds Misuse (Balanced 0) (h.processAcked ack encLevel rcvTime lossDelay congested
      hasAckEliciting priorInFlight) := by
  refine holds_derefPointer trivial fun space hs => ?_
  have hsame := h.sameBooks_tellCongestion ack encLevel space.largestAcked congested
    hasAckEliciting priorInFlight
  have hset := (hb.same hsame).setSpace ((hsame.spaces encLevel).trans hs)
    { space with largestAcked := max space.largestAcked ack.largestAcked } rfl
  refine (hset.detectLostPackets rcvTime lossDelay encLevel).bind fun h₁ ⟨hb₁, hacked₁⟩ => ?_
  refine (hb₁.detectLostPathProbesIf _ rcvTime).bind fun h₂ ⟨hb₂, hacked₂⟩ => ?_
  -- the packets that are pending are still those that were acknowledged
  have hacked : h₂.ackedPackets = h.ackedPackets := by
    rw [hacked₂, hacked₁, ackedPackets_setPacketNumberSpace, hsame.ackedPackets]
  rw [← hacked] at hb₂
  refine (hb₂.finishAcked priorInFlight rcvTime).bind fun h₃ hb₃ => ?_
  exact hb₃.of_spaces (fun _ => rfl) rfl

theorem sameBooks_completeAddressValidation (h : SentPacketHandler φ) (condition : Bool) :
    SameBooks h (h.completeAddressValidation condition) := by
  unfold completeAddressValidation
  split
  · exact ⟨⟨fun _ => rfl, rfl⟩, rfl⟩
  · exact SameBooks.refl h

section

variable (hb : Balanced 0 h)

include hb

theorem Balanced.receivedAck (ack : AckFrame) (encLevel : EncryptionLevel)
    (rcvTime : Time) (timing : Timing) (congested : Bool) :
    Holds Misuse (fun result => Balanced 0 result.1)
      (h.receivedAck ack encLevel rcvTime timing congested) := by
  refine holds_derefPointer trivial fun space hs => ?_
  dsimp only
  split
  · exact hb
  · have hb₁ := hb.same (h.sameBooks_completeAddressValidation
      (encLevel == .handshake || encLevel == .oneRTT))
    refine (hb₁.detectAndRemoveAckedPackets ack encLevel).bind
      fun ⟨h₂, hasAckEliciting, err⟩ hb₂ => ?_
    dsimp only at hb₂ ⊢
    split
    · next hstop =>
      rcases hb₂ with ⟨_, hb₂⟩ | ⟨rfl, hb₂⟩
      · exact hb₂
      · have hempty : h₂.ackedPackets = [] := by simpa using hstop
        rwa [hempty] at hb₂
    · next hgo =>
      rcases hb₂ with ⟨herr, _⟩ | ⟨_, hb₂⟩
      · simp [herr] at hgo
      · refine (hb₂.processAcked ack encLevel rcvTime timing.lossDelay congested
          hasAckEliciting _).bind fun h₃ hb₃ => ?_
        exact hb₃

/-! ## timeouts and probes -/

theorem Balanced.firePTO (encLevel : EncryptionLevel) (draw : Nat) :
    Holds Misuse (fun result => Balanced 0 result.1) (h.firePTO encLevel draw) := by
  have hb' : Balanced 0 { h with
      ptoCount := h.ptoCount + 1, numProbesToSend := h.numProbesToSend + 2 } :=
    hb.of_spaces (fun _ => rfl) rfl
  cases encLevel with
  | initial | handshake => exact hb.of_spaces (fun _ => rfl) rfl
  | zeroRTT => exact hb'
  | oneRTT =>
    refine (hb'.popPacketNumber .oneRTT draw).bind fun ⟨pn, g⟩ hg => ?_
    have hw := hg.wellFormed .oneRTT g.appDataPackets rfl
    refine (hw.skippedPacket pn).bind fun history ⟨hw', hiterate⟩ => ?_
    have happ : g.getPacketNumberSpace .oneRTT = some g.appDataPackets := rfl
    have hset : Balanced 0 (g.setHistory .oneRTT g.appDataPackets history) :=
      hg.set happ hw' (by rw [hiterate])
    exact hset.of_spaces (fun _ => rfl) rfl

theorem Balanced.onPTO (now : Time) (timing : Timing) (draw : Nat) :
    Holds Misuse (fun result => Balanced 0 result.1) (h.onPTO now timing draw) := by
  unfold SentPacketHandler.onPTO
  dsimp only
  split
  · exact hb
  · split
    · trivial
    · refine holds_derefPointer trivial fun space _ => ?_
      split
      · exact hb
      · exact hb.firePTO _ draw

theorem Balanced.onAddressValidationPTO : Balanced 0 h.onAddressValidationPTO.1 := by
  unfold SentPacketHandler.onAddressValidationPTO
  dsimp only
  split
  · exact hb.of_spaces (fun _ => rfl) rfl
  · split <;> exact hb.of_spaces (fun _ => rfl) rfl

theorem Balanced.onLossDetectionTimeout (now : Time) (timing : Timing) (draw : Nat) :
    Holds Misuse (fun result => Balanced 0 result.1)
      (h.onLossDetectionTimeout now timing draw) := by
  refine (hb.detectLostPathProbesIf h.handshakeConfirmed now).bind fun g ⟨hg, _⟩ => ?_
  dsimp only
  split
  · exact (hg.detectLostPackets now timing.lossDelay _).bind fun g' hg' => hg'.1
  · split
    · exact hg.onAddressValidationPTO
    · exact hg.onPTO now timing draw

theorem Balanced.queueProbePacket (encLevel : EncryptionLevel) :
    Holds Misuse (fun result => Balanced 0 result.1) (h.queueProbePacket encLevel) := by
  refine holds_derefPointer trivial fun space hs => ?_
  have hw := hb.wellFormed encLevel space hs
  split
  · exact hb
  · next pn p hfirst =>
    unfold firstOutstanding at hfirst
    split at hfirst
    · have hmem := List.mem_of_find?_eq_some hfirst
      have hout : p.outstanding = true := by simpa using List.find?_some hfirst
      have hack : p.isAckEliciting = true := by
        simp only [Packet.outstanding, Bool.and_eq_true] at hout
        exact hout.2
      refine (hw.declareLost hmem).bind fun history hf => ?_
      refine (hb.forget hs hf).1.remove.bind fun h₂ ⟨hb₂, _⟩ => ?_
      exact (sameBooks_queue h₂ hack).bind fun h₃ hsame => hb₂.same hsame
    · cases hfirst

end

/-! ## dropping, retry and migration -/

theorem foldlM_removeFromBytesInFlight (packets : List (NumberedPacket φ)) :
    ∀ h : SentPacketHandler φ, inFlight packets ≤ h.bytesInFlight →
      packets.foldlM (fun h e => h.removeFromBytesInFlight e.2) h =
        .ok { h with bytesInFlight := h.bytesInFlight - inFlight packets } := by
  induction packets with
  | nil => simp [pure, Except.pure]
  | cons e packets ih =>
    intro h hle
    rw [inFlight_cons] at hle
    rw [List.foldlM_cons, removeFromBytesInFlight_ok h (by omega)]
    have hrest := ih { h with bytesInFlight := h.bytesInFlight - share e.2 } (by
      dsimp only
      omega)
    simp only [bind, Except.bind, hrest, inFlight_cons]
    congr 2
    omega

/-- Here a packet leaves the flight before it leaves its history. -/
theorem Balanced.dropZeroRTT (hb : Balanced 0 h) (he : e ∈ h.tracked .zeroRTT) :
    Holds Misuse (fun h' => Balanced 0 h' ∧ Keeps .zeroRTT e h h') (h.dropZeroRTT e) := by
  have happ : h.getPacketNumberSpace .zeroRTT = some h.appDataPackets := rfl
  have hle : (share e.2 : Int) ≤ h.bytesInFlight := by
    have hshare := share_le_inFlight he
    have htracked := h.inFlight_tracked_le .zeroRTT
    have hbytes := hb.bytes
    omega
  have hw := hb.wellFormed .zeroRTT h.appDataPackets happ
  unfold SentPacketHandler.dropZeroRTT
  rw [removeFromBytesInFlight_ok h hle]
  refine (hw.remove he).bind fun result ⟨history, hr, hf⟩ => ?_
  subst hr
  obtain ⟨hb', hkeeps⟩ := hb.forget happ hf
  refine ⟨hb'.of_spaces (fun _ => rfl) ?_, hkeeps.same ⟨fun _ => rfl, rfl⟩⟩
  simp [setHistory, setPacketNumberSpace]

theorem Balanced.dropPackets (hb : Balanced 0 h) (encLevel : EncryptionLevel) :
    Holds Misuse (Balanced 0) (h.dropPackets encLevel) := by
  have hb' := hb.same (h.sameBooks_completeAddressValidation (encLevel == .handshake))
  unfold SentPacketHandler.dropPackets
  generalize h.completeAddressValidation (encLevel == .handshake) = g at hb' ⊢
  have hbytes := hb'.bytes
  dsimp only
  cases encLevel with
  | initial | handshake =>
    dsimp only
    split
    · exact hb'
    · next space hspace =>
      simp only [trackedInFlight, tracked, getPacketNumberSpace, hspace] at hbytes
      rw [foldlM_removeFromBytesInFlight _ g (by omega)]
      refine ⟨?_, fun level found hfound => hb'.wellFormed level found ?_⟩
      · simp only [resetPTO, trackedInFlight, tracked, getPacketNumberSpace, inFlight_nil]
        omega
      · cases level <;> first | exact hfound | cases hfound
  | zeroRTT =>
    have hloop := foldlM_tracked .zeroRTT (fun g' e hg' he => hg'.dropZeroRTT he) hb'
      (g.appDataPackets.history.iterate.takeWhile fun e =>
        decide (e.2.encryptionLevel = some .zeroRTT)) (List.takeWhile_sublist _)
    exact hloop.bind fun g' hg' => hg'.1.of_spaces (fun _ => rfl) rfl
  | oneRTT => trivial

/-- Queueing frames again does not touch the books. -/
theorem sameBooks_requeue (h : SentPacketHandler φ) (e : NumberedPacket φ) :
    Holds Misuse (SameBooks h) (h.requeue e) := by
  unfold requeue
  split
  · next hack => exact sameBooks_queue h hack
  · exact SameBooks.refl h

theorem sameBooks_foldlM_requeue (packets : List (NumberedPacket φ)) (h : SentPacketHandler φ) :
    Holds Misuse (SameBooks h) (packets.foldlM requeue h) :=
  holds_foldlM (I := fun _ g => SameBooks h g)
    (fun e _ g hg => (g.sameBooks_requeue e).imp fun _ hg' => hg.trans hg') packets h
    (SameBooks.refl h)

theorem Balanced.migratePacket (hb : Balanced 0 h) (he : e ∈ h.tracked .oneRTT) :
    Holds Misuse (fun h' => Balanced 0 h' ∧ Keeps .oneRTT e h h') (h.migratePacket e) := by
  have happ : h.getPacketNumberSpace .oneRTT = some h.appDataPackets := rfl
  have hw := hb.wellFormed .oneRTT h.appDataPackets happ
  refine (hw.declareLost he).bind fun history hf => ?_
  obtain ⟨hb₁, hk₁⟩ := hb.forget happ hf
  dsimp only
  split
  · next hprobe =>
    rw [share_eq_zero hw he (by simp [hprobe])] at hb₁
    exact ⟨hb₁, hk₁⟩
  · refine hb₁.remove.bind fun h₂ ⟨hb₂, hsame₂⟩ => ?_
    refine (h₂.sameBooks_requeue e).imp fun h₃ hsame₃ => ?_
    exact ⟨hb₂.same hsame₃, (hk₁.same hsame₂).same hsame₃.toSameSpaces⟩

/-- The loop over the path probe packets leaves some of them. -/
theorem mem_of_mem_removeProbesInLoop (rounds : Nat) :
    ∀ (i : Nat) (slots : List (NumberedPacket φ)) (len : Nat),
      e ∈ removeProbesInLoop rounds i slots len → e ∈ slots := by
  induction rounds with
  | zero => exact fun i slots len he => List.mem_of_mem_take he
  | succ rounds ih =>
    intro i slots len he
    unfold removeProbesInLoop at he
    split at he
    · exact List.mem_of_mem_take he
    · split at he
      · exact ih _ _ _ he
      · rcases List.mem_append.mp (ih _ _ _ he) with he | he
        · rcases List.mem_append.mp he with he | he
          · exact List.mem_of_mem_take he
          · exact List.mem_of_mem_take (List.mem_of_mem_drop he)
        · exact List.mem_of_mem_drop he

theorem Balanced.migratedPath (hb : Balanced 0 h) : Holds Misuse (Balanced 0) h.migratedPath := by
  have hloop := foldlM_tracked .oneRTT (fun g e hg he => hg.migratePacket he) hb
    h.appDataPackets.history.iterate (List.Sublist.refl _)
  refine hloop.bind fun g ⟨hg, _⟩ => ?_
  have hset := hg.setPathProbes fun e he => mem_of_mem_removeProbesInLoop
    g.appDataPackets.history.pathProbePackets.length 0 _
    g.appDataPackets.history.pathProbePackets.length he
  dsimp only
  rw [holds_pure]
  split
  · exact hset
  · exact hset.same (sameBooks_call _ _)

/-- After a Retry nothing is in flight, unless something was in the Handshake space. -/
theorem Balanced.resetForRetry (hb : Balanced 0 h) (hidle : h.tracked .handshake = [])
    (draw : Nat) : Holds Misuse (Balanced 0) (h.resetForRetry draw) := by
  refine holds_derefPointer trivial fun initialPackets _ => ?_
  refine (sameBooks_foldlM_requeue _ _).bind fun h₁ hsame₁ => ?_
  refine (sameBooks_foldlM_requeue _ _).bind fun h₂ hsame₂ => ?_
  have hsame := hsame₁.trans hsame₂
  have hhandshake : h₂.handshakePackets = h.handshakePackets := hsame.spaces .handshake
  refine ⟨?_, fun level space hs => ?_⟩
  · have hbytes : h₂.bytesInFlight = 0 := hsame.bytes
    have hnone : inFlight (h₂.tracked .handshake) = 0 := by
      rw [tracked_congr hsame.spaces]
      exact congrArg inFlight hidle
    have htotal : trackedInFlight { h₂ with
        initialPackets := some (newPacketNumberSpace initialPackets.pns.peek none)
        appDataPackets := newPacketNumberSpace h₂.appDataPackets.pns.peek (some draw)
        ptoCount := 0 } = inFlight (h₂.tracked .handshake) := by
      simp [trackedInFlight, tracked, getPacketNumberSpace, newPacketNumberSpace, iterate,
        packetsFrom]
    rw [htotal, hnone]
    exact hbytes
  · cases level with
    | initial | zeroRTT | oneRTT =>
      cases hs
      exact wellFormed_new
    | handshake => exact hb.wellFormed .handshake space (hhandshake.symm.trans hs)

/-! ## runs -/

/-- What the connection sees to: it accepts a Retry only as long as it has received no packet,
and so before there are Handshake keys. -/
def Valid (h : SentPacketHandler φ) : Op φ → Prop
  | .resetForRetry _ => h.tracked .handshake = []
  | _ => True

/-- The states that valid calls lead to. A panic leads to none. -/
inductive Reachable : SentPacketHandler φ → Prop
  | new (initialPN : PacketNumber) (clientAddressValidated : Bool) (perspective : Perspective)
      (usesCubic : Bool) (draw : Nat) :
      Reachable (newSentPacketHandler initialPN clientAddressValidated perspective usesCubic draw)
  | step {h h' : SentPacketHandler φ} (op : Op φ) {err : Option HandlerError} :
      Reachable h → Valid h op → h.step op = .ok (h', err) → Reachable h'

/-- **One call** keeps the books. -/
theorem Balanced.step (hb : Balanced 0 h) {op : Op φ} (hv : Valid h op) :
    Holds Misuse (fun result => Balanced 0 result.1) (h.step op) := by
  cases op with
  | receivedBytes n => exact hb.of_spaces (fun _ => rfl) rfl
  | receivedPacket l =>
    simp only [SentPacketHandler.step, receivedPacket, holds_ok]
    split
    · exact hb.of_spaces (fun _ => rfl) rfl
    · exact hb
  | sentPacket a => exact (hb.sentPacket a).bind fun _ hb' => hb'
  | popPacketNumber encLevel draw => exact (hb.popPacketNumber encLevel draw).bind fun _ hb' => hb'
  | receivedAck ack encLevel rcvTime timing congested =>
    exact hb.receivedAck ack encLevel rcvTime timing congested
  | onLossDetectionTimeout now timing draw => exact hb.onLossDetectionTimeout now timing draw
  | queueProbePacket encLevel => exact (hb.queueProbePacket encLevel).bind fun _ hb' => hb'
  | dropPackets encLevel => exact (hb.dropPackets encLevel).bind fun _ hb' => hb'
  | resetForRetry draw => exact (hb.resetForRetry hv draw).bind fun _ hb' => hb'
  | migratedPath => exact hb.migratedPath.bind fun _ hb' => hb'

theorem balanced_new (initialPN : PacketNumber) (clientAddressValidated : Bool)
    (perspective : Perspective) (usesCubic : Bool) (draw : Nat) :
    Balanced 0 (newSentPacketHandler initialPN clientAddressValidated perspective usesCubic draw :
      SentPacketHandler φ) := by
  refine ⟨rfl, fun level space hs => ?_⟩
  cases level <;> cases hs <;> exact wellFormed_new

/-- **A whole run** keeps the books. -/
theorem Reachable.balanced (hr : Reachable h) : Balanced 0 h := by
  induction hr with
  | new => exact balanced_new _ _ _ _ _
  | step op _ hv hstep ih =>
    have hnext := ih.step hv
    rw [hstep] at hnext
    exact hnext

/-- **Bytes in flight**: whatever calls were made, the bytes in flight are the lengths of the
tracked packets that are included in them; they are not negative; and no next call panics
because they would be, or because a packet to retransmit has no frames. -/
theorem bytesInFlight_exact (h : SentPacketHandler φ) (hr : Reachable h) :
    h.bytesInFlight = h.trackedInFlight ∧ 0 ≤ h.bytesInFlight ∧
      ∀ op, Valid h op → h.step op ≠ .error .negativeBytesInFlight ∧
        h.step op ≠ .error .noFrames := by
  have hbytes : h.bytesInFlight = h.trackedInFlight := by
    have hb := hr.balanced.bytes
    omega
  refine ⟨hbytes, by omega, fun op hv => ?_⟩
  have hnext := hr.balanced.step hv
  constructor <;>
  · intro hpanic
    rw [hpanic] at hnext
    exact hnext

/-- A packet of 1200 bytes with one frame. -/
def framePacket (encLevel : EncryptionLevel) (t : Time) (pn : PacketNumber) : Op Unit :=
  .sentPacket
    { t := t
      pn := pn
      largestAcked := InvalidPacketNumber
      streamFrames := []
      frames := [⟨(), true⟩]
      encLevel := encLevel
      size := 1200
      isPathMTUProbePacket := false
      isPathProbePacket := false }

def ackOf (encLevel : EncryptionLevel) (rcvTime : Time) (pn : PacketNumber) : Op Unit :=
  .receivedAck ⟨[⟨pn, pn⟩], by simp, by simp, by simp⟩ encLevel rcvTime ⟨100, 100, 300, 300⟩ false

/-- Four packets are sent and the last one is acknowledged; the first one is lost then, so that
two are in flight. -/
theorem lossy_bytesInFlight_exact :
    ∃ h : SentPacketHandler Unit, h.bytesInFlight = 2400 ∧
      (h.bytesInFlight = h.trackedInFlight ∧ 0 ≤ h.bytesInFlight ∧
        ∀ op, Valid h op → h.step op ≠ .error .negativeBytesInFlight ∧
          h.step op ≠ .error .noFrames) := by
  have h₁ : Reachable _ :=
    .step (framePacket .initial 150 0) (.new 0 true .client true 0) trivial rfl
  have h₂ : Reachable _ := .step (framePacket .initial 160 1) h₁ trivial rfl
  have h₃ : Reachable _ := .step (framePacket .initial 170 2) h₂ trivial rfl
  have h₄ : Reachable _ := .step (framePacket .initial 180 3) h₃ trivial rfl
  have h₅ : Reachable _ := .step (ackOf .initial 200 3) h₄ trivial rfl
  exact ⟨_, rfl, bytesInFlight_exact _ h₅⟩

end MoqQuic.Quic.SentPacketHandler
