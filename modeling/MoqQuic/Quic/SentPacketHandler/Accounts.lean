import MoqQuic.Quic.SentPacketHandler
import MoqQuic.Quic.SentPacketHistory.Tracking

/-!
# MoqQuic.Quic.SentPacketHandler.Accounts

The books of the handler: the bytes in flight against the packets that are tracked.

`Balanced pending h` says that the bytes in flight are those of the tracked packets and
`pending` bytes of packets that have left the histories but not the flight. The lemmas below
say what the parts that the calls share do to the books: taking a packet from its history
moves its share to `pending`, and `removeFromBytesInFlight` takes it from there.
-/

namespace MoqQuic.Quic.SentPacketHandler

open Outcome SentPacketHistory

variable {φ : Type}

/-! ## bytes in flight -/

/-- What a packet adds to the bytes in flight. -/
def share (p : Packet φ) : Nat := if p.includedInBytesInFlight then p.length else 0

/-- The length of the packets that are included in the bytes in flight. -/
def inFlight (l : List (NumberedPacket φ)) : Nat :=
  ((l.filter fun e => e.2.includedInBytesInFlight).map fun e => e.2.length).sum

@[simp] theorem inFlight_nil : inFlight ([] : List (NumberedPacket φ)) = 0 := rfl

@[simp] theorem inFlight_cons (e : NumberedPacket φ) (l : List (NumberedPacket φ)) :
    inFlight (e :: l) = share e.2 + inFlight l := by
  by_cases hincluded : e.2.includedInBytesInFlight <;> simp [inFlight, share, hincluded]

theorem inFlight_append (l l' : List (NumberedPacket φ)) :
    inFlight (l ++ l') = inFlight l + inFlight l' := by
  simp [inFlight]

theorem inFlight_perm {l l' : List (NumberedPacket φ)} (h : l.Perm l') : inFlight l = inFlight l' :=
  ((h.filter _).map _).sum_eq

variable {e : NumberedPacket φ} {p : Packet φ}

theorem share_le_inFlight {l : List (NumberedPacket φ)} (he : e ∈ l) : share e.2 ≤ inFlight l := by
  induction l with
  | nil => cases he
  | cons e' l ih =>
    rw [inFlight_cons]
    rcases List.mem_cons.mp he with rfl | he
    · exact Nat.le_add_right _ _
    · exact Nat.le_add_left_of_le (ih he)

def tracked (h : SentPacketHandler φ) (encLevel : EncryptionLevel) : List (NumberedPacket φ) :=
  match h.getPacketNumberSpace encLevel with
  | none => []
  | some space => space.history.iterate

/-- The bytes in flight of the packets that are tracked in some space. -/
def trackedInFlight (h : SentPacketHandler φ) : Nat :=
  inFlight (h.tracked .initial) + inFlight (h.tracked .handshake) + inFlight (h.tracked .oneRTT)

theorem inFlight_tracked_le (h : SentPacketHandler φ) (encLevel : EncryptionLevel) :
    inFlight (h.tracked encLevel) ≤ h.trackedInFlight := by
  have happ : h.tracked .zeroRTT = h.tracked .oneRTT := rfl
  cases encLevel <;> simp only [trackedInFlight, happ] <;> omega

variable {space : PacketNumberSpace φ}

theorem tracked_of_some {h : SentPacketHandler φ} {encLevel : EncryptionLevel} (hs : h.getPacketNumberSpace encLevel = some space) :
    h.tracked encLevel = space.history.iterate := by
  rw [tracked, hs]

/-! ## the spaces -/

@[simp] theorem getPacketNumberSpace_set_self (h : SentPacketHandler φ)
    (encLevel : EncryptionLevel) (space : PacketNumberSpace φ) :
    (h.setPacketNumberSpace encLevel space).getPacketNumberSpace encLevel = some space := by
  cases encLevel <;> rfl

/-- A space of the handler after one was changed. -/
theorem getPacketNumberSpace_set_cases {h : SentPacketHandler φ} {encLevel level : EncryptionLevel}
    {space found : PacketNumberSpace φ}
    (hs : (h.setPacketNumberSpace encLevel space).getPacketNumberSpace level = some found) :
    found = space ∨ h.getPacketNumberSpace level = some found := by
  cases encLevel <;> cases level <;>
    simp_all [setPacketNumberSpace, getPacketNumberSpace]

theorem trackedInFlight_set {h : SentPacketHandler φ} {encLevel : EncryptionLevel} (hs : h.getPacketNumberSpace encLevel = some space)
    (space' : PacketNumberSpace φ) :
    (h.setPacketNumberSpace encLevel space').trackedInFlight + inFlight space.history.iterate =
      h.trackedInFlight + inFlight space'.history.iterate := by
  cases encLevel <;> simp only [getPacketNumberSpace, Option.some.injEq] at hs <;>
    simp only [trackedInFlight, tracked, setPacketNumberSpace, getPacketNumberSpace, hs] <;> omega

/-! ## the books -/

/-- The bytes in flight are those of the tracked packets, and `pending` ones. -/
structure Balanced (pending : Nat) (h : SentPacketHandler φ) : Prop where
  bytes : h.bytesInFlight = h.trackedInFlight + pending
  wellFormed : ∀ encLevel space, h.getPacketNumberSpace encLevel = some space →
    WellFormed space.history

/-- The spaces, and what was acknowledged, do not differ. -/
structure SameSpaces (h h' : SentPacketHandler φ) : Prop where
  spaces : ∀ encLevel, h'.getPacketNumberSpace encLevel = h.getPacketNumberSpace encLevel
  ackedPackets : h'.ackedPackets = h.ackedPackets

/-- Nothing that the books are about differs. -/
structure SameBooks (h h' : SentPacketHandler φ) : Prop extends SameSpaces h h' where
  bytes : h'.bytesInFlight = h.bytesInFlight

variable {h h' : SentPacketHandler φ} {pending pending' : Nat} {encLevel : EncryptionLevel}

theorem tracked_congr
    (hspaces : ∀ encLevel, h'.getPacketNumberSpace encLevel = h.getPacketNumberSpace encLevel)
    (encLevel : EncryptionLevel) : h'.tracked encLevel = h.tracked encLevel := by
  rw [tracked, tracked, hspaces encLevel]

theorem Balanced.of_spaces (hb : Balanced pending h)
    (hspaces : ∀ encLevel, h'.getPacketNumberSpace encLevel = h.getPacketNumberSpace encLevel)
    (hbytes : h'.bytesInFlight + pending = h.bytesInFlight + pending') :
    Balanced pending' h' := by
  refine ⟨?_, fun level space hs => hb.wellFormed level space (hspaces level ▸ hs)⟩
  have hbefore := hb.bytes
  have htotal : h'.trackedInFlight = h.trackedInFlight := by
    simp only [trackedInFlight, tracked_congr hspaces]
  omega

theorem Balanced.same (hb : Balanced pending h) (hsame : SameBooks h h') : Balanced pending h' :=
  hb.of_spaces hsame.spaces (by rw [hsame.bytes])

theorem SameBooks.refl (h : SentPacketHandler φ) : SameBooks h h := ⟨⟨fun _ => rfl, rfl⟩, rfl⟩

theorem sameBooks_call (h : SentPacketHandler φ) (c : Call φ) : SameBooks h (h.call c) :=
  ⟨⟨fun _ => rfl, rfl⟩, rfl⟩

theorem sameBooks_callHandlers (h : SentPacketHandler φ) (mk : φ → Call φ)
    (frames : List (SentFrame φ)) : SameBooks h (h.callHandlers mk frames) :=
  ⟨⟨fun _ => rfl, rfl⟩, rfl⟩

variable {h₁ : SentPacketHandler φ}

theorem SameBooks.trans (hsame : SameBooks h h₁) (hsame' : SameBooks h₁ h') : SameBooks h h' where
  bytes := hsame'.bytes.trans hsame.bytes
  spaces := fun level => (hsame'.spaces level).trans (hsame.spaces level)
  ackedPackets := hsame'.ackedPackets.trans hsame.ackedPackets

/-- Packets move between the space and what is pending. -/
theorem Balanced.set (hb : Balanced pending h) {space space' : PacketNumberSpace φ}
    (hs : h.getPacketNumberSpace encLevel = some space) (hw : WellFormed space'.history)
    (hsum : inFlight space.history.iterate + pending = inFlight space'.history.iterate + pending') :
    Balanced pending' (h.setPacketNumberSpace encLevel space') := by
  refine ⟨?_, fun level found hfound => ?_⟩
  · have hbytes : (h.setPacketNumberSpace encLevel space').bytesInFlight = h.bytesInFlight := by
      cases encLevel <;> rfl
    have htotal := trackedInFlight_set hs space'
    have hbefore := hb.bytes
    omega
  · rcases getPacketNumberSpace_set_cases hfound with rfl | hfound
    · exact hw
    · exact hb.wellFormed level found hfound

/-- Only what is not in the history changes. -/
theorem Balanced.setSpace (hb : Balanced pending h)
    (hs : h.getPacketNumberSpace encLevel = some space) (space' : PacketNumberSpace φ)
    (hhistory : space'.history = space.history) :
    Balanced pending (h.setPacketNumberSpace encLevel space') :=
  hb.set hs (hhistory ▸ hb.wellFormed _ _ hs) (by rw [hhistory])

/-- The packets at the level stay, except those with the number of `e`. -/
structure Keeps (encLevel : EncryptionLevel) (e : NumberedPacket φ) (h h' : SentPacketHandler φ) :
    Prop where
  tracked : ∀ e' ∈ h.tracked encLevel, e'.1 ≠ e.1 → e' ∈ h'.tracked encLevel
  ackedPackets : h'.ackedPackets = h.ackedPackets

theorem Keeps.same (hk : Keeps encLevel e h h₁)
    (hsame : SameSpaces h₁ h') : Keeps encLevel e h h' where
  tracked := by
    intro e' he' hne
    rw [tracked_congr hsame.spaces]
    exact hk.tracked e' he' hne
  ackedPackets := hsame.ackedPackets.trans hk.ackedPackets

@[simp] theorem ackedPackets_setPacketNumberSpace (h : SentPacketHandler φ)
    (encLevel : EncryptionLevel) (space : PacketNumberSpace φ) :
    (h.setPacketNumberSpace encLevel space).ackedPackets = h.ackedPackets := by
  cases encLevel <;> rfl

/-- **A packet leaves its history**; it is pending until it leaves the flight. -/
theorem Balanced.forget (hb : Balanced pending h)
    (hs : h.getPacketNumberSpace encLevel = some space) {history : SentPacketHistory φ}
    (hf : Forgets space.history e history) :
    Balanced (pending + share e.2) (h.setHistory encLevel space history) ∧
      Keeps encLevel e h (h.setHistory encLevel space history) := by
  refine ⟨hb.set hs hf.wellFormed ?_, ?_, ?_⟩
  · rw [inFlight_perm hf.perm, inFlight_cons]
    dsimp only
    omega
  · intro e' he' hne
    rw [tracked_of_some hs, hf.perm.mem_iff] at he'
    rw [setHistory, tracked_of_some (getPacketNumberSpace_set_self h encLevel _)]
    rcases List.mem_cons.mp he' with rfl | he'
    · exact absurd rfl hne
    · exact he'
  · exact ackedPackets_setPacketNumberSpace h encLevel _

/-- **A pending packet leaves the flight**. -/
theorem removeFromBytesInFlight_ok (h : SentPacketHandler φ) (hle : share p ≤ h.bytesInFlight) :
    h.removeFromBytesInFlight p = .ok { h with bytesInFlight := h.bytesInFlight - share p } := by
  unfold removeFromBytesInFlight
  by_cases hincluded : p.includedInBytesInFlight
  · rw [share, if_pos hincluded] at hle
    rw [if_pos hincluded, if_neg (Int.not_lt.mpr hle), share, if_pos hincluded]
  · rw [if_neg hincluded, share, if_neg hincluded]
    simp

theorem Balanced.remove (hb : Balanced (pending + share p) h) :
    Holds Misuse (fun h' => Balanced pending h' ∧ SameSpaces h h')
      (h.removeFromBytesInFlight p) := by
  have hbytes := hb.bytes
  rw [removeFromBytesInFlight_ok h (by omega)]
  refine ⟨hb.of_spaces (fun _ => rfl) ?_, fun _ => rfl, rfl⟩
  dsimp only
  omega

/-- An ack-eliciting packet has frames to retransmit. -/
theorem queueFramesForRetransmission_ok (h : SentPacketHandler φ) (hp : p.isAckEliciting = true) :
    h.queueFramesForRetransmission p =
      .ok ((h.callHandlers .onLost p.frames).callHandlers .onLost p.streamFrames) := by
  unfold queueFramesForRetransmission
  rw [if_neg]
  unfold Packet.isAckEliciting at hp
  cases hframes : p.frames.isEmpty <;> simp_all

theorem sameBooks_queue (h : SentPacketHandler φ) (hp : p.isAckEliciting = true) :
    Holds Misuse (SameBooks h) (h.queueFramesForRetransmission p) := by
  rw [queueFramesForRetransmission_ok h hp]
  exact (sameBooks_callHandlers h _ _).trans (sameBooks_callHandlers _ _ _)

end MoqQuic.Quic.SentPacketHandler
