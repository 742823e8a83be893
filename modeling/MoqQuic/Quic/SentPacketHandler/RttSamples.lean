import MoqQuic.Quic.SentPacketHandler.Acknowledged

/-!
# MoqQuic.Quic.SentPacketHandler.RttSamples

Whose send time an RTT sample uses.

The handler numbers packets per space, and tells the congestion controller only the number.
It tells of every packet it sends, except path probes, but only of acknowledged packets that
were in flight, and it does not tell that a packet is given up. So the send times of the
BBR senders go wrong (`twoSpaces_not_genuine`) unless a run is `Undisturbed`: numbers that are
in use at one time differ across the spaces, no path probe is sent, only packets in flight are
acknowledged, and no packet is lost or dropped. In such a run every sample is genuine, and
the numbers with a send time are those of the packets that are still `unresolved`
(`rttSamples_genuine`).
-/

namespace MoqQuic.Quic.SentPacketHandler

open Outcome SentPacketHistory BbrSender

variable {φ : Type} {h h' : SentPacketHandler φ} {encLevel : EncryptionLevel}
  {space space' : PacketNumberSpace φ}

/-! ## undisturbed runs -/

/-- A call that disturbs no send time: the number of a packet that is sent is not in use in any
space, and it is no path probe; an acknowledged packet was in flight; no packet is lost or
dropped. -/
def Undisturbed (h : SentPacketHandler φ) : Op φ → Prop
  | .sentPacket a => 0 ≤ a.pn ∧ a.isPathProbePacket = false ∧ ∀ e ∈ h.live, e.1 ≠ a.pn
  | .receivedAck ack encLevel rcvTime timing _ =>
    ∀ space, h.getPacketNumberSpace encLevel = some space →
      ∀ e ∈ space.history.iterate, Harmless space ack rcvTime timing.lossDelay e
  | .onLossDetectionTimeout now timing _ =>
    ∀ space, h.getPacketNumberSpace h.getLossTimeAndSpace.2 = some space →
      ∀ e ∈ space.history.iterate, ¬ Overdue space space.largestAcked now timing.lossDelay e
  | .queueProbePacket encLevel => ∀ e ∈ h.tracked encLevel, e.2.outstanding = false
  | .dropPackets encLevel => NothingToDrop h encLevel
  | .resetForRetry _ | .migratedPath => h.live = []
  | .receivedBytes _ | .receivedPacket _ | .popPacketNumber .. => True

/-- **One call** of an undisturbed run. -/
theorem Plain.step (hp : Plain h) {op : Op φ} (hu : Undisturbed h op) :
    Holds AnyPanic (fun result => Calm h result.1) (h.step op) := by
  cases op with
  | receivedBytes n =>
    have hreceived : Quiet h (h.receivedBytes n) := quiet_of_eq hp (fun _ => rfl) rfl
    exact hreceived.calm
  | receivedPacket l =>
    have hreceived : Quiet h (h.receivedPacket l) := by
      unfold SentPacketHandler.receivedPacket
      split <;> exact quiet_of_eq hp (fun _ => rfl) rfl
    exact hreceived.calm
  | sentPacket a => exact (hp.sentPacket hu.1 hu.2.1 hu.2.2).bind fun _ hc => hc
  | popPacketNumber encLevel draw =>
    exact (hp.popPacketNumber encLevel draw).bind fun _ hq => hq.2.calm
  | receivedAck ack encLevel rcvTime timing congested => exact hp.receivedAck hu congested
  | onLossDetectionTimeout now timing draw =>
    exact (hp.onLossDetectionTimeout hu draw).imp fun _ hq => hq.calm
  | queueProbePacket encLevel => exact (hp.queueProbePacket hu).bind fun _ hq => hq.calm
  | dropPackets encLevel => exact (hp.dropPackets hu).bind fun _ hq => hq.calm
  | resetForRetry draw => exact (hp.resetForRetry hu draw).bind fun _ hq => hq.calm
  | migratedPath => exact (hp.migratedPath hu).bind fun _ hc => hc

/-- The states that undisturbed calls lead to. -/
inductive Undisturbing : SentPacketHandler φ → Prop
  | new {initialPN : PacketNumber} (hpn : 0 ≤ initialPN) (clientAddressValidated : Bool)
      (perspective : Perspective) (usesCubic : Bool) (draw : Nat) :
      Undisturbing
        (newSentPacketHandler initialPN clientAddressValidated perspective usesCubic draw)
  | step {h h' : SentPacketHandler φ} (op : Op φ) {err : Option HandlerError} :
      Undisturbing h → Undisturbed h op → h.step op = .ok (h', err) → Undisturbing h'

theorem plain_new {initialPN : PacketNumber} (hpn : 0 ≤ initialPN) (clientAddressValidated : Bool)
    (perspective : Perspective) (usesCubic : Bool) (draw : Nat) :
    Plain (newSentPacketHandler initialPN clientAddressValidated perspective usesCubic draw :
      SentPacketHandler φ) := by
  intro level space hs
  cases level with
  | initial => cases hs; exact plainSpace_new hpn none
  | handshake => cases hs; exact plainSpace_new (Int.le_refl 0) none
  | zeroRTT | oneRTT => cases hs; exact plainSpace_new (Int.le_refl 0) (some draw)

theorem known_new (initialPN : PacketNumber) (clientAddressValidated : Bool)
    (perspective : Perspective) (usesCubic : Bool) (draw : Nat) :
    Known (newSentPacketHandler initialPN clientAddressValidated perspective usesCubic draw :
      SentPacketHandler φ) := by
  refine ⟨List.nodup_nil, ?_, fun n t => ?_, fun i e prior t hi => ?_⟩
  · exact fun e he => absurd he List.not_mem_nil
  · constructor
    · intro hnone
      cases hnone
    · rintro ⟨e, he, -⟩
      exact absurd he List.not_mem_nil
  · cases hi

/-- **A whole undisturbed run**. -/
theorem Undisturbing.known (hr : Undisturbing h) : Plain h ∧ Known h := by
  induction hr with
  | new hpn => exact ⟨plain_new hpn _ _ _ _, known_new _ _ _ _ _⟩
  | step op _ hu hstep ih =>
    have hnext := ih.1.step hu
    rw [hstep] at hnext
    exact ⟨hnext.1, ih.2.effect hnext.2⟩

/-! ## samples -/

/-- The packets of a space that were sent and are neither acknowledged, declared lost nor
dropped: the stub of a path probe stands for a packet of the other list. -/
def unresolvedIn (space : PacketNumberSpace φ) : List (NumberedPacket φ) :=
  (space.history.iterate.filter fun e => !e.2.isPathProbePacket) ++ space.history.pathProbePackets

def unresolved (h : SentPacketHandler φ) : List (NumberedPacket φ) :=
  h.initialPackets.toList.flatMap unresolvedIn ++ h.handshakePackets.toList.flatMap unresolvedIn ++
    unresolvedIn h.appDataPackets

/-- **The send times are right**: a sender that is driven by the calls of the handler sampled the
RTT of every acknowledged packet from its own send time, and keeps the send times of the packets
that are not resolved. -/
structure RttSamplesGenuine (h : SentPacketHandler φ) : Prop where
  samples : ∀ pre e prior t post, h.calls = pre ++ .onPacketAcked e prior t :: post →
    ∀ s, Runs pre s → s.rttSample e.1.toNat t = some (t - e.2.sendTime)
  keys : ∀ s, Runs h.calls s → ∀ n, (s.sentTimes n).isSome = true ↔ ∃ e ∈ h.unresolved, e.1 = n

theorem PlainSpace.unresolvedIn_eq (hplain : PlainSpace space) :
    unresolvedIn space = space.history.iterate := by
  rw [unresolvedIn, hplain.probes, List.append_nil, List.filter_eq_self]
  intro e he
  simp [hplain.stubs e he]

theorem Plain.unresolved_eq (hp : Plain h) : h.unresolved = h.live := by
  have hspace : ∀ level, (h.getPacketNumberSpace level).toList.flatMap unresolvedIn =
      h.tracked level := by
    intro level
    cases hs : h.getPacketNumberSpace level with
    | none => rw [tracked, hs]; rfl
    | some space =>
      rw [tracked_of_some hs, ← (hp level space hs).unresolvedIn_eq]
      simp
  have happ := (hp .oneRTT h.appDataPackets rfl).unresolvedIn_eq
  rw [unresolved, live, ← hspace .initial, ← hspace .handshake, happ]
  rfl

theorem rttSample_of_sentTimes {s : BbrSender} {n : Nat} {sentTime : Time}
    (hsent : s.sentTimes n = some sentTime) (t : Time) :
    s.rttSample n t = some (t - sentTime) := by
  cases s with
  | bbrv1 b => exact congrArg (fun x => some (t - x.getD 0)) hsent
  | bbrv3 b => exact congrArg (Option.map fun x => t - x) hsent

/-- **RTT samples**: in every undisturbed run, all samples are genuine and the keys of the send
times are the packets that are not resolved. -/
theorem rttSamples_genuine (h : SentPacketHandler φ) (hr : Undisturbing h) :
    RttSamplesGenuine h := by
  obtain ⟨hp, hk⟩ := hr.known
  refine ⟨fun pre e prior t post hcalls s hruns => ?_, fun s hruns n => ?_⟩
  · refine rttSample_of_sentTimes ?_ t
    rw [hruns.sentTimes_eq.2]
    have hgenuine := hk.genuine pre.length e prior t (by rw [hcalls]; simp)
    rw [hcalls, List.take_left' rfl] at hgenuine
    exact hgenuine
  · rw [hruns.sentTimes_eq.2, hp.unresolved_eq, Option.isSome_iff_exists]
    constructor
    · rintro ⟨t, ht⟩
      obtain ⟨e, he, hn, -⟩ := (hk.sentTimes n t).mp ht
      exact ⟨e, he, hn⟩
    · rintro ⟨e, he, hn⟩
      exact ⟨e.2.sendTime, (hk.sentTimes n _).mpr ⟨e, he, hn, rfl⟩⟩

instance (space : PacketNumberSpace φ) (largestAcked : PacketNumber) (now : Time)
    (lossDelay : Duration) (e : NumberedPacket φ) :
    Decidable (Overdue space largestAcked now lossDelay e) :=
  inferInstanceAs (Decidable (_ ∧ _))

instance (space : PacketNumberSpace φ) (ack : AckFrame) (rcvTime : Time) (lossDelay : Duration)
    (e : NumberedPacket φ) : Decidable (Harmless space ack rcvTime lossDelay e) := by
  unfold Harmless
  infer_instance

/-- A Handshake packet takes the number of an Initial packet after that was acknowledged. -/
theorem numbersApart_rttSamples_genuine :
    ∃ h : SentPacketHandler Unit, h.calls.length = 8 ∧ RttSamplesGenuine h := by
  have h₁ : Undisturbing _ :=
    .step (framePacket .initial 100 0) (.new (Int.le_refl 0) true .client false 0)
      ⟨by decide, rfl, by decide⟩ rfl
  have h₂ : Undisturbing _ := .step (ackOf .initial 300 0) h₁
    (fun space hs => by cases hs; decide) rfl
  have h₃ : Undisturbing _ :=
    .step (framePacket .handshake 320 0) h₂ ⟨by decide, rfl, by decide⟩ rfl
  have h₄ : Undisturbing _ := .step (ackOf .handshake 500 0) h₃
    (fun space hs => by cases hs; decide) rfl
  exact ⟨_, rfl, rttSamples_genuine _ h₄⟩

/-- Some sender is driven by the calls. -/
theorem exists_runs (calls : List (Call φ)) : ∃ s, Runs calls s := by
  induction calls using List.reverseRec with
  | nil => exact ⟨_, .fresh (.bbrv1 0 0 0)⟩
  | append_singleton calls c ih =>
    obtain ⟨s, hs⟩ := ih
    exact ⟨_, hs.call c 0 0⟩

theorem RttSamplesGenuine.exists_sample (hg : RttSamplesGenuine h) (pre : List (Call φ))
    (e : NumberedPacket φ) (prior : Int) (t : Time) (post : List (Call φ))
    (hcalls : h.calls = pre ++ .onPacketAcked e prior t :: post) :
    ∃ s, Runs pre s ∧ s.rttSample e.1.toNat t = some (t - e.2.sendTime) := by
  obtain ⟨s, hruns⟩ := exists_runs pre
  exact ⟨s, hruns, hg.samples pre e prior t post hcalls s hruns⟩

/-- An Initial packet and a Handshake packet, both with number 0, are sent at 100 and at 200; the
ACK of the first one arrives at 300. The sample is 100 then, from the other packet's send time. -/
theorem twoSpaces_not_genuine :
    ∃ h : SentPacketHandler Unit, Reachable h ∧ ¬ RttSamplesGenuine h := by
  have h₁ : Reachable _ :=
    .step (framePacket .initial 100 0) (.new 0 true .client false 0) trivial rfl
  have h₂ : Reachable _ := .step (framePacket .handshake 200 0) h₁ trivial rfl
  have h₃ : Reachable _ := .step (ackOf .initial 300 0) h₂ trivial rfl
  refine ⟨_, h₃, fun hgenuine => ?_⟩
  obtain ⟨s, hruns, hsample⟩ := hgenuine.exists_sample [_, _, _, _] _ _ _ [] rfl
  have hsent : s.sentTimes 0 = some 200 := by
    rw [hruns.sentTimes_eq.2]
    rfl
  have hown := (rttSample_of_sentTimes hsent 300).symm.trans hsample
  exact absurd (Option.some.inj hown) (by decide)

end MoqQuic.Quic.SentPacketHandler
