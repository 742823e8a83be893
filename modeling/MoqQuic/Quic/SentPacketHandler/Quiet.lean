import Mathlib.Data.List.TakeWhile
import MoqQuic.Quic.SentPacketHandler.InFlight
import MoqQuic.Quic.SentPacketHandler.SentTimes

/-!
# MoqQuic.Quic.SentPacketHandler.Quiet

The calls by which no packet is acknowledged, one by one, in a handler that has sent no path
probes (`Plain`).

A packet that is sent is told to the congestion controller before it enters its history. The
other calls are `Quiet` when they find nothing to give up: the packets stay, and nothing is told
that concerns the send times.
-/

namespace MoqQuic.Quic.SentPacketHandler

open Outcome SentPacketHistory BbrSender

variable {φ : Type} {h h' : SentPacketHandler φ} {encLevel : EncryptionLevel}
  {space space' : PacketNumberSpace φ}

/-- Any panic: what is shown here is about the calls that return. -/
abbrev AnyPanic : HandlerPanic → Prop := fun _ => True

/-! ## spaces without path probes -/

/-- No path probe was sent in the space, and its numbers are in sequence. -/
structure PlainSpace (space : PacketNumberSpace φ) : Prop where
  wellFormed : WellFormed space.history
  aligned : Aligned space.history
  probes : space.history.pathProbePackets = []
  stubs : ∀ e ∈ space.history.iterate, e.2.isPathProbePacket = false
  next : 0 ≤ space.pns.next

def Plain (h : SentPacketHandler φ) : Prop :=
  ∀ encLevel space, h.getPacketNumberSpace encLevel = some space → PlainSpace space

theorem Plain.set (hp : Plain h) (hs : PlainSpace space') :
    Plain (h.setPacketNumberSpace encLevel space') := by
  intro level found hfound
  rcases getPacketNumberSpace_set_cases hfound with rfl | hfound
  · exact hs
  · exact hp level found hfound

theorem Plain.congr (hp : Plain h)
    (hspaces : ∀ level, h'.getPacketNumberSpace level = h.getPacketNumberSpace level) :
    Plain h' :=
  fun level found hfound => hp level found (hspaces level ▸ hfound)

/-- What a call of an undisturbed run comes to. -/
def Calm (h h' : SentPacketHandler φ) : Prop := Plain h' ∧ Effect h h'

@[simp] theorem calls_setPacketNumberSpace (h : SentPacketHandler φ)
    (encLevel : EncryptionLevel) (space : PacketNumberSpace φ) :
    (h.setPacketNumberSpace encLevel space).calls = h.calls := by
  cases encLevel <;> rfl

theorem calls_completeAddressValidation (h : SentPacketHandler φ) (condition : Bool) :
    (h.completeAddressValidation condition).calls = h.calls := by
  unfold completeAddressValidation
  split <;> rfl

/-- A call that does not concern the send times. -/
structure Quiet (h h' : SentPacketHandler φ) : Prop where
  plain : Plain h'
  live : h'.live.Perm h.live
  calls : ∃ calls, h'.calls = h.calls ++ calls ∧ ∀ c ∈ calls, Silent c

theorem Quiet.calm (hq : Quiet h h') : Calm h h' := by
  obtain ⟨calls, hcalls, hsilent⟩ := hq.calls
  exact ⟨hq.plain, .quiet calls hq.live hcalls hsilent⟩

variable {h₁ : SentPacketHandler φ}

theorem Quiet.trans (hq : Quiet h h₁) (hq' : Quiet h₁ h') : Quiet h h' := by
  obtain ⟨calls, hcalls, hsilent⟩ := hq.calls
  obtain ⟨calls', hcalls', hsilent'⟩ := hq'.calls
  refine ⟨hq'.plain, hq'.live.trans hq.live, calls ++ calls', ?_, ?_⟩
  · rw [hcalls', hcalls, List.append_assoc]
  · exact List.forall_mem_append.mpr ⟨hsilent, hsilent'⟩

/-- A call that changes no space. -/
theorem quiet_of_eq (hp : Plain h)
    (hspaces : ∀ level, h'.getPacketNumberSpace level = h.getPacketNumberSpace level)
    (hcalls : h'.calls = h.calls) : Quiet h h' := by
  refine ⟨hp.congr hspaces, ?_, [], hcalls.trans (List.append_nil _).symm, by simp⟩
  rw [live_congr hspaces]

theorem quiet_of_set (hp : Plain h) (hs : h.getPacketNumberSpace encLevel = some space)
    (hplain : PlainSpace space') (hiterate : space'.history.iterate = space.history.iterate) :
    Quiet h (h.setPacketNumberSpace encLevel space') := by
  refine ⟨hp.set hplain, (live_set [] [] hs (by rw [hiterate])).symm, [], ?_, by simp⟩
  rw [calls_setPacketNumberSpace, List.append_nil]

/-! ## sending -/

variable {pn : PacketNumber}

theorem Plain.send (hp : Plain h) (hs : h.getPacketNumberSpace encLevel = some space)
    {p : Packet φ} (hprobe : p.isPathProbePacket = false)
    (hincluded : p.includedInBytesInFlight = true → p.isAckEliciting = true) (hpn : 0 ≤ pn)
    (hnew : ∀ e ∈ h.live, e.1 ≠ pn) (inFlight : Int) (bytes : Nat) (retransmittable : Bool)
    (hspaces : ∀ level, h₁.getPacketNumberSpace level = h.getPacketNumberSpace level)
    (hcalls : h₁.calls = h.calls ++ [.onPacketSent p.sendTime inFlight pn bytes retransmittable])
    {space₁ : PacketNumberSpace φ} (hpns : space₁.pns = space.pns) :
    Holds AnyPanic (Calm h) (do
      let history ← space.history.sentPacket pn p
      return h₁.setHistory encLevel space₁ history) := by
  have hplain := hp encLevel space hs
  have hsent := (hplain.wellFormed.sentPacket pn fun hin => ⟨hprobe, hincluded hin⟩).and
    (hplain.aligned.sentPacket hpn p)
  refine hsent.any.bind fun history ⟨⟨hw, _⟩, haligned, hiterate, hprobes⟩ => ?_
  have hplain' : PlainSpace { space₁ with history := history } := by
    refine ⟨hw, haligned, hprobes.trans hplain.probes, fun e he => ?_, hpns ▸ hplain.next⟩
    rw [hiterate] at he
    rcases List.mem_append.mp he with he | he
    · exact hplain.stubs e he
    · rw [List.mem_singleton.mp he]
      exact hprobe
  refine ⟨(hp.congr hspaces).set hplain', .sent (pn, p) inFlight bytes retransmittable ?_ ?_ hpn
    hnew⟩
  · rw [← live_congr hspaces]
    refine (live_set [] [(pn, p)] ((hspaces encLevel).trans hs) ?_).symm
    rw [hiterate]
    exact List.perm_append_comm
  · rw [setHistory, calls_setPacketNumberSpace, hcalls]

theorem Plain.sentPacket (hp : Plain h) {a : SentArgs φ} (hpn : 0 ≤ a.pn)
    (hprobe : a.isPathProbePacket = false) (hnew : ∀ e ∈ h.live, e.1 ≠ a.pn) :
    Holds AnyPanic (Calm h) (h.sentPacket a) := by
  refine holds_derefPointer trivial fun space hs => ?_
  dsimp only
  rw [if_neg (by simp [hprobe])]
  split
  · next hack =>
    refine hp.send (p := { a.packet with includedInBytesInFlight := true }) hs hprobe
      (fun _ => hack) hpn hnew (h.bytesInFlight + a.size) a.size true (fun _ => ?_) ?_ ?_ <;> rfl
  · refine hp.send (p := a.packet) hs hprobe (fun hin => by cases hin) hpn hnew h.bytesInFlight
      a.size false (fun _ => ?_) ?_ ?_ <;> rfl

theorem PlainSpace.skippedPacket (hplain : PlainSpace space) (hpn : 0 ≤ pn) :
    Holds AnyPanic (fun history => history.iterate = space.history.iterate ∧
        ∀ pns : PacketNumberGenerator, 0 ≤ pns.next →
          PlainSpace { space with history := history, pns := pns })
      (space.history.skippedPacket pn) := by
  have hskipped := (hplain.wellFormed.skippedPacket pn).and (hplain.aligned.skippedPacket hpn)
  refine hskipped.any.imp fun history ⟨⟨hw, hiterate⟩, haligned, hprobes⟩ => ?_
  refine ⟨hiterate, fun pns hnext => ⟨hw, haligned, hprobes.trans hplain.probes, ?_, hnext⟩⟩
  rw [hiterate]
  exact hplain.stubs

variable {pns : PacketNumberGenerator}

theorem nonneg_pop (hnext : 0 ≤ pns.next) (draw : Nat) :
    0 ≤ (pns.pop draw).2.1 ∧ 0 ≤ (pns.pop draw).2.2.next ∧
      ((pns.pop draw).1 = true → 0 ≤ (pns.pop draw).2.1 - 1) := by
  unfold PacketNumberGenerator.pop
  split <;> grind

theorem Plain.popPacketNumber (hp : Plain h) (encLevel : EncryptionLevel) (draw : Nat) :
    Holds AnyPanic (fun result => 0 ≤ result.1 ∧ Quiet h result.2)
      (h.popPacketNumber encLevel draw) := by
  refine holds_derefPointer trivial fun space hs => ?_
  have hplain := hp encLevel space hs
  obtain ⟨hpn, hnext, hskip⟩ := nonneg_pop hplain.next draw
  dsimp only
  split
  · next hskipped =>
    refine (hplain.skippedPacket (hskip hskipped)).bind fun history ⟨hiterate, hplain'⟩ => ?_
    exact ⟨hpn, quiet_of_set hp hs (hplain' _ hnext) hiterate⟩
  · refine ⟨hpn, quiet_of_set hp hs ?_ rfl⟩
    exact ⟨hplain.wellFormed, hplain.aligned, hplain.probes, hplain.stubs, hnext⟩

/-! ## losses -/

/-- The packet is deemed lost. -/
def Overdue (space : PacketNumberSpace φ) (largestAcked : PacketNumber) (now : Time)
    (lossDelay : Duration) (e : NumberedPacket φ) : Prop :=
  e.1 ≤ largestAcked ∧ (e.2.sendTime ≤ now - lossDelay ∨
    space.history.difference largestAcked e.1 ≥ packetThreshold)

/-- Only the loss time of the space changes. -/
def Rearmed (encLevel : EncryptionLevel) (space : PacketNumberSpace φ)
    (h h' : SentPacketHandler φ) : Prop :=
  ∃ lossTime, h' = h.setPacketNumberSpace encLevel { space with lossTime := lossTime }

theorem Rearmed.get {h₀ : SentPacketHandler φ} (hr : Rearmed encLevel space h₀ h) :
    ∃ lossTime, h.getPacketNumberSpace encLevel = some { space with lossTime := lossTime } := by
  obtain ⟨lossTime, rfl⟩ := hr
  exact ⟨lossTime, getPacketNumberSpace_set_self _ _ _⟩

theorem setPacketNumberSpace_set (h : SentPacketHandler φ) (encLevel : EncryptionLevel)
    (space space' : PacketNumberSpace φ) :
    (h.setPacketNumberSpace encLevel space).setPacketNumberSpace encLevel space' =
      h.setPacketNumberSpace encLevel space' := by
  cases encLevel <;> rfl

/-- Nothing is lost if no packet is overdue. -/
theorem rearmed_detectLostPackets (hs : h.getPacketNumberSpace encLevel = some space)
    {now : Time} {lossDelay : Duration}
    (hnone : ∀ e ∈ space.history.iterate, ¬ Overdue space space.largestAcked now lossDelay e) :
    Holds AnyPanic (Rearmed encLevel space h) (h.detectLostPackets now lossDelay encLevel) := by
  refine holds_derefPointer trivial fun found hfound => ?_
  cases hs.symm.trans hfound
  refine holds_foldlM (I := fun rest g => Rearmed encLevel space h g ∧
    ∀ e ∈ rest, e ∈ space.history.iterate ∧ e.1 ≤ space.largestAcked)
    (fun e rest g hg => ?_) _ _ ⟨⟨0, rfl⟩, fun e he => ?_⟩ |>.imp fun g hg => hg.1
  · obtain ⟨hr, hrest⟩ := hg
    have hrest' := (List.forall_mem_cons.mp hrest).2
    obtain ⟨hmem, hle⟩ := hrest e List.mem_cons_self
    obtain ⟨lossTime, hget⟩ := hr.get
    refine holds_derefPointer trivial fun found' hfound' => ?_
    cases hget.symm.trans hfound'
    dsimp only
    split
    · next hlost => exact absurd ⟨hle, hlost⟩ (hnone e hmem)
    · split
      · refine ⟨?_, hrest'⟩
        obtain ⟨lossTime', rfl⟩ := hr
        exact ⟨_, setPacketNumberSpace_set _ _ _ _⟩
      · exact ⟨hr, hrest'⟩
  · have hmem := List.mem_takeWhile_imp he
    exact ⟨(List.takeWhile_sublist _).subset he, by simpa using hmem⟩

/-- Path probes that were not sent are not lost. -/
theorem detectLostPathProbesIf_plain (hp : Plain h) (condition : Bool) (now : Time) :
    Holds AnyPanic (fun g => g = h) (h.detectLostPathProbesIf condition now) := by
  have hnone := (hp .oneRTT h.appDataPackets rfl).probes
  unfold detectLostPathProbesIf detectLostPathProbes
  rw [hnone]
  split <;> rfl

theorem Rearmed.quiet (hr : Rearmed encLevel space h h') (hp : Plain h)
    (hs : h.getPacketNumberSpace encLevel = some space) : Quiet h h' := by
  obtain ⟨lossTime, rfl⟩ := hr
  exact quiet_of_set hp hs { hp encLevel space hs with } rfl

/-! ## timeouts and probes -/

theorem Plain.firePTO (hp : Plain h) (encLevel : EncryptionLevel) (draw : Nat) :
    Holds AnyPanic (fun result => Quiet h result.1) (h.firePTO encLevel draw) := by
  unfold SentPacketHandler.firePTO
  dsimp only
  cases encLevel with
  | initial | handshake | zeroRTT => exact quiet_of_eq hp (fun _ => rfl) rfl
  | oneRTT =>
    have hfirst : Quiet h { h with
        ptoCount := h.ptoCount + 1, numProbesToSend := h.numProbesToSend + 2 } :=
      quiet_of_eq hp (fun _ => rfl) rfl
    refine (hfirst.plain.popPacketNumber .oneRTT draw).bind fun ⟨pn, g⟩ ⟨hpn, hpop⟩ => ?_
    have hplain := hpop.plain .oneRTT g.appDataPackets rfl
    refine (hplain.skippedPacket hpn).bind fun history ⟨hiterate, hplain'⟩ => ?_
    have hskip : Quiet g (g.setHistory .oneRTT g.appDataPackets history) :=
      quiet_of_set hpop.plain rfl (hplain' _ hplain.next) hiterate
    have hlast : Quiet (g.setHistory .oneRTT g.appDataPackets history)
        { g.setHistory .oneRTT g.appDataPackets history with ptoMode := .sendPTOAppData } :=
      quiet_of_eq hskip.plain (fun _ => rfl) rfl
    exact ((hfirst.trans hpop).trans hskip).trans hlast

theorem Plain.onPTO (hp : Plain h) (now : Time) (timing : Timing) (draw : Nat) :
    Holds AnyPanic (fun result => Quiet h result.1) (h.onPTO now timing draw) := by
  have hsame : Quiet h h := quiet_of_eq hp (fun _ => rfl) rfl
  unfold SentPacketHandler.onPTO
  dsimp only
  split
  · exact hsame
  · split
    · trivial
    · refine holds_derefPointer trivial fun space _ => ?_
      split
      · exact hsame
      · exact hp.firePTO _ draw

theorem Plain.onLossDetectionTimeout (hp : Plain h) {now : Time} {timing : Timing}
    (hnone : ∀ space, h.getPacketNumberSpace h.getLossTimeAndSpace.2 = some space →
      ∀ e ∈ space.history.iterate, ¬ Overdue space space.largestAcked now timing.lossDelay e)
    (draw : Nat) :
    Holds AnyPanic (fun result => Quiet h result.1)
      (h.onLossDetectionTimeout now timing draw) := by
  refine (detectLostPathProbesIf_plain hp _ now).bind fun g hg => ?_
  subst hg
  dsimp only
  split
  · have hdetect : Holds AnyPanic (Quiet g)
        (g.detectLostPackets now timing.lossDelay g.getLossTimeAndSpace.2) := by
      cases hs : g.getPacketNumberSpace g.getLossTimeAndSpace.2 with
      | none =>
        unfold detectLostPackets
        rw [hs]
        trivial
      | some space =>
        exact (rearmed_detectLostPackets hs (hnone space hs)).imp fun _ hr => hr.quiet hp hs
    exact hdetect.bind fun _ hq => hq
  · split
    · unfold onAddressValidationPTO
      dsimp only
      split
      · exact quiet_of_eq hp (fun _ => rfl) rfl
      · split <;> exact quiet_of_eq hp (fun _ => rfl) rfl
    · exact hp.onPTO now timing draw

theorem Plain.queueProbePacket (hp : Plain h)
    (hnone : ∀ e ∈ h.tracked encLevel, e.2.outstanding = false) :
    Holds AnyPanic (fun result => Quiet h result.1) (h.queueProbePacket encLevel) := by
  refine holds_derefPointer trivial fun space hs => ?_
  rw [tracked_of_some hs] at hnone
  have hfirst : space.history.firstOutstanding = none := by
    unfold SentPacketHistory.firstOutstanding
    split
    · exact List.find?_eq_none.mpr fun e he => by simp [hnone e he]
    · rfl
  rw [hfirst]
  exact quiet_of_eq hp (fun _ => rfl) rfl

/-! ## dropping, retry and migration -/

theorem plainSpace_new (hpn : 0 ≤ pn) (skip : Option Nat) :
    PlainSpace (newPacketNumberSpace pn skip : PacketNumberSpace φ) where
  wellFormed := wellFormed_new
  aligned := by simp [Aligned, newPacketNumberSpace]
  probes := rfl
  stubs := by simp [newPacketNumberSpace, iterate, packetsFrom]
  next := hpn

/-- Spaces without packets are dropped. -/
theorem quiet_of_drop (hp : Plain h)
    (hspaces : ∀ level, h'.getPacketNumberSpace level = h.getPacketNumberSpace level ∨
      h'.getPacketNumberSpace level = none ∧ h.tracked level = [])
    (hcalls : h'.calls = h.calls) : Quiet h h' := by
  refine ⟨fun level space hs => ?_, ?_, [], by rw [hcalls, List.append_nil], by simp⟩
  · rcases hspaces level with heq | ⟨hnone, -⟩
    · exact hp level space (heq ▸ hs)
    · rw [hnone] at hs
      cases hs
  · have htracked : ∀ level, h'.tracked level = h.tracked level := by
      intro level
      rcases hspaces level with heq | ⟨hnone, hempty⟩
      · simp only [tracked, heq]
      · rw [hempty, tracked, hnone]
    simp only [live, htracked]
    exact List.Perm.refl _

/-- The level has no packets that would be dropped with its keys. -/
def NothingToDrop (h : SentPacketHandler φ) : EncryptionLevel → Prop
  | .initial => h.tracked .initial = []
  | .handshake => h.tracked .handshake = []
  | .zeroRTT => ∀ e ∈ h.tracked .zeroRTT, e.2.encryptionLevel ≠ some .zeroRTT
  | .oneRTT => True

theorem Plain.dropPackets (hp : Plain h) (hnothing : NothingToDrop h encLevel) :
    Holds AnyPanic (Quiet h) (h.dropPackets encLevel) := by
  have hsame := h.sameBooks_completeAddressValidation (encLevel == .handshake)
  have hcalls := h.calls_completeAddressValidation (encLevel == .handshake)
  have hquiet := quiet_of_eq hp hsame.spaces hcalls
  unfold SentPacketHandler.dropPackets
  dsimp only
  generalize h.completeAddressValidation (encLevel == .handshake) = h₁ at hsame hcalls hquiet
  have htracked := tracked_congr hsame.spaces
  cases encLevel with
  | oneRTT => trivial
  | initial | handshake =>
    dsimp only
    split
    · exact hquiet
    · next space hs =>
      have hnone := (htracked _).trans hnothing
      simp only [tracked, getPacketNumberSpace, hs] at hnone
      refine (holds_foldlM_nil hnone h₁).bind fun g hg => ?_
      subst hg
      refine quiet_of_drop hp (fun level => ?_) hcalls
      -- only the space of the level is dropped
      have hspace := hsame.spaces level
      cases level <;> first | exact .inr ⟨rfl, hnothing⟩ | exact .inl hspace
  | zeroRTT =>
    have hnone : (h₁.appDataPackets.history.iterate.takeWhile fun e =>
        decide (e.2.encryptionLevel = some .zeroRTT)) = [] := by
      rw [show h₁.appDataPackets.history.iterate = h.tracked .zeroRTT from htracked .zeroRTT]
      cases hpackets : h.tracked .zeroRTT with
      | nil => rfl
      | cons e packets =>
        have hne := hnothing e (by rw [hpackets]; exact List.mem_cons_self)
        rw [List.takeWhile_cons_of_neg (by simpa using hne)]
    refine (holds_foldlM_nil hnone h₁).bind fun g hg => ?_
    subst hg
    exact quiet_of_eq hp hsame.spaces hcalls

theorem tracked_of_live (hempty : h.live = []) (encLevel : EncryptionLevel) :
    h.tracked encLevel = [] :=
  List.eq_nil_iff_forall_not_mem.mpr fun e he => by
    have hmem := mem_live_of_mem_tracked he
    rw [hempty] at hmem
    cases hmem

theorem peek_nonneg (hnext : 0 ≤ pns.next) : 0 ≤ pns.peek := by
  unfold PacketNumberGenerator.peek
  split <;> grind

theorem Plain.resetForRetry (hp : Plain h) (hempty : h.live = []) (draw : Nat) :
    Holds AnyPanic (Quiet h) (h.resetForRetry draw) := by
  refine holds_derefPointer trivial fun space hs => ?_
  have hfound : h.getPacketNumberSpace .initial = some space := hs
  have hinitial : space.history.iterate = [] :=
    (tracked_of_some hfound).symm.trans (tracked_of_live hempty .initial)
  have happ : h.appDataPackets.history.iterate = [] := tracked_of_live hempty .oneRTT
  refine (holds_foldlM_nil hinitial _).bind fun g hg => ?_
  subst hg
  refine (holds_foldlM_nil happ _).bind fun g hg => ?_
  subst hg
  have hplain := plainSpace_new (φ := φ) (peek_nonneg (hp .initial space hs).next) none
  have hplain' := plainSpace_new (φ := φ)
    (peek_nonneg (hp .oneRTT h.appDataPackets rfl).next) (some draw)
  refine ⟨fun level found hfound => ?_, ?_, [], (List.append_nil _).symm, by simp⟩
  · cases level with
    | initial => cases hfound; exact hplain
    | handshake => exact hp .handshake found hfound
    | zeroRTT | oneRTT => cases hfound; exact hplain'
  · have hhandshake := tracked_of_live hempty .handshake
    rw [hempty, List.perm_nil]
    exact List.append_eq_nil_iff.mpr ⟨List.append_eq_nil_iff.mpr ⟨rfl, hhandshake⟩, rfl⟩

theorem Plain.migratedPath (hp : Plain h) (hempty : h.live = []) :
    Holds AnyPanic (Calm h) h.migratedPath := by
  have happ : h.appDataPackets.history.iterate = [] := tracked_of_live hempty .oneRTT
  refine (holds_foldlM_nil happ h).bind fun g hg => ?_
  subst hg
  have hplain := hp .oneRTT g.appDataPackets rfl
  rw [hplain.probes]
  have hset : Quiet g (g.setHistory .oneRTT g.appDataPackets
      { g.appDataPackets.history with pathProbePackets := [] }) := by
    refine quiet_of_set hp rfl ⟨?_, hplain.aligned, rfl, hplain.stubs, hplain.next⟩ rfl
    exact { hplain.wellFormed with probes := by simp }
  dsimp only
  rw [holds_pure]
  split
  · exact hset.calm
  · refine ⟨hset.plain, .reset ?_ rfl⟩
    exact List.perm_nil.mp (hempty ▸ hset.live)

end MoqQuic.Quic.SentPacketHandler
