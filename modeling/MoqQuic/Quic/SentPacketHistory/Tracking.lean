import MoqQuic.Lib.Outcome
import MoqQuic.Quic.SentPacketHistory

/-!
# MoqQuic.Quic.SentPacketHistory.Tracking

What the operations of the history do to the packets that it goes through.

`WellFormed` is the representation invariant: the slice does not start with an empty place,
and the counter counts the outstanding packets. `Forgets h e h'` says that `h'` tracks the
packets of `h` except `e`. Both `Remove` and `DeclareLost` do just that for a tracked packet,
so none of their panics is reached then. `Misuse` singles out the panics that tell of a wrong
call; the others tell of a defect in the handler.
-/

namespace MoqQuic.Quic

/-- The panics that only a wrong call reaches. -/
def Misuse : HandlerPanic → Prop
  | .nonSequentialPacketNumber | .cannotDropKeys | .invalidPacketNumberSpace
  | .nilDereference => True
  | .negativeNumberOfOutstandingPackets | .cleanupFailed | .negativeBytesInFlight
  | .noFrames => False

namespace SentPacketHistory

open Outcome

variable {φ : Type}

/-! ## the packets of a slice -/

theorem packetsFrom_append (pn : Int) (slots slots' : List (Option (Packet φ))) :
    packetsFrom pn (slots ++ slots') =
      packetsFrom pn slots ++ packetsFrom (pn + slots.length) slots' := by
  induction slots generalizing pn with
  | nil => simp [packetsFrom]
  | cons slot slots ih =>
    have hlen : pn + 1 + slots.length = pn + (slots.length + 1 : Nat) := by omega
    cases slot with
    | none | some => simp only [List.cons_append, packetsFrom, ih, hlen, List.length_cons]

variable {h : SentPacketHistory φ} {e : NumberedPacket φ} {p : Packet φ}

variable {slots : List (Option (Packet φ))}

theorem le_of_mem_packetsFrom {pn : Int} (he : e ∈ packetsFrom pn slots) : pn ≤ e.1 := by
  induction slots generalizing pn with
  | nil => simp [packetsFrom] at he
  | cons slot slots ih =>
    cases slot with
    | none =>
      have := ih he
      omega
    | some p =>
      rcases List.mem_cons.mp he with rfl | he
      · exact Int.le_refl pn
      · have := ih he
        omega

/-- The packets come in the order of their numbers. -/
theorem packetsFrom_sorted (pn : Int) (slots : List (Option (Packet φ))) :
    (packetsFrom pn slots).Pairwise fun e e' => e.1 < e'.1 := by
  induction slots generalizing pn with
  | nil => exact List.Pairwise.nil
  | cons slot slots ih =>
    cases slot with
    | none => exact ih (pn + 1)
    | some p =>
      refine List.pairwise_cons.mpr ⟨fun e he => ?_, ih (pn + 1)⟩
      exact Int.add_one_le_iff.mp (le_of_mem_packetsFrom he)

/-- A packet of the slice has its place there. -/
theorem split_of_mem_packetsFrom {pn : Int} (he : e ∈ packetsFrom pn slots) :
    ∃ l l', slots = l ++ some e.2 :: l' ∧ e.1 = pn + l.length := by
  induction slots generalizing pn with
  | nil => simp [packetsFrom] at he
  | cons slot slots ih =>
    have hlater : e ∈ packetsFrom (pn + 1) slots →
        ∃ l l', slot :: slots = l ++ some e.2 :: l' ∧ e.1 = pn + l.length := by
      intro hlater
      obtain ⟨l, l', rfl, hnumber⟩ := ih hlater
      refine ⟨slot :: l, l', rfl, ?_⟩
      rw [hnumber, List.length_cons]
      grind
    cases slot with
    | none => exact hlater he
    | some p =>
      rcases List.mem_cons.mp he with rfl | he
      · exact ⟨[], slots, rfl, by simp⟩
      · exact hlater he

/-- Empty places at the beginning do not count. -/
theorem packetsFrom_dropWhile (pn : Int) (slots : List (Option (Packet φ))) :
    packetsFrom (pn + (slots.takeWhile Option.isNone).length)
      (slots.drop (slots.takeWhile Option.isNone).length) = packetsFrom pn slots := by
  induction slots generalizing pn with
  | nil => rfl
  | cons slot slots ih =>
    cases slot with
    | none =>
      have hlen : pn + ((slots.takeWhile Option.isNone).length + 1 : Nat) =
          pn + 1 + (slots.takeWhile Option.isNone).length := by omega
      rw [List.takeWhile_cons_of_pos rfl, List.length_cons, List.drop_succ_cons, hlen, ih (pn + 1)]
      rfl
    | some p => simp [packetsFrom]

/-! ## the invariant -/

/-- What holds of the packets, wherever their places are. -/
structure Counted (h : SentPacketHistory φ) : Prop where
  outstanding : h.numOutstanding = h.iterate.countP fun e => e.2.outstanding
  /-- only packets that elicit an ACK are in flight, and no path probes -/
  included : ∀ e ∈ h.iterate, e.2.includedInBytesInFlight = true →
    e.2.isPathProbePacket = false ∧ e.2.isAckEliciting = true
  probes : ∀ e ∈ h.pathProbePackets, e.2.includedInBytesInFlight = false

structure WellFormed (h : SentPacketHistory φ) : Prop extends Counted h where
  head : h.packets.head? ≠ some none

theorem wellFormed_new : WellFormed ({} : SentPacketHistory φ) where
  head := by simp
  outstanding := rfl
  included := by
    intro e he
    simp [iterate, packetsFrom] at he
  probes := by
    intro e he
    simp at he

theorem iterate_sorted (h : SentPacketHistory φ) :
    h.iterate.Pairwise fun e e' => e.1 < e'.1 := packetsFrom_sorted _ _

/-- The numbers of tracked packets are distinct. -/
theorem iterate_nodup (h : SentPacketHistory φ) : (h.iterate.map Prod.fst).Nodup := by
  refine List.pairwise_map.mpr (h.iterate_sorted.imp ?_)
  intro e e' hlt
  exact Int.ne_of_lt hlt

/-! ## packets that are added -/

/-- Taking another number changes no packet. -/
theorem WellFormed.check (hw : WellFormed h) (pn : PacketNumber) :
    Holds Misuse (fun h' => WellFormed h' ∧ h'.iterate = h.iterate)
      (h.checkSequentialPacketNumberUse pn) := by
  unfold checkSequentialPacketNumberUse
  split
  · trivial
  · rw [holds_ok]
    -- the first number is only changed while there is no packet
    have hiterate : packetsFrom (if h.packets.isEmpty then pn else h.firstPacketNumber)
        h.packets = h.iterate := by
      by_cases hempty : h.packets.isEmpty
      · rw [List.isEmpty_iff] at hempty
        simp [iterate, packetsFrom, hempty]
      · simp [iterate, hempty]
    refine ⟨⟨⟨?_, ?_, hw.probes⟩, hw.head⟩, hiterate⟩
    · exact hw.outstanding.trans (congrArg (fun l => (List.countP _ l : Int)) hiterate.symm)
    · exact fun e he => hw.included e (hiterate ▸ he)

/-- A packet at the end of the slice. -/
theorem WellFormed.add {h h' : SentPacketHistory φ} (hw : WellFormed h)
    {packets : List (NumberedPacket φ)} (hbefore : h.iterate = packets)
    (hp : p.includedInBytesInFlight = true → p.isPathProbePacket = false ∧ p.isAckEliciting = true)
    (hpackets : h'.packets = h.packets ++ [some p])
    (hfirst : h'.firstPacketNumber = h.firstPacketNumber)
    (hnum : h'.numOutstanding = if p.outstanding then h.numOutstanding + 1 else h.numOutstanding)
    (hprobes : ∀ e ∈ h'.pathProbePackets, e.2.includedInBytesInFlight = false) :
    WellFormed h' ∧ ∃ pn, h'.iterate = packets ++ [(pn, p)] := by
  subst hbefore
  have hiterate : h'.iterate = h.iterate ++ [(h.firstPacketNumber + h.packets.length, p)] := by
    rw [iterate, hpackets, hfirst, packetsFrom_append]
    rfl
  refine ⟨⟨⟨?_, ?_, hprobes⟩, ?_⟩, _, hiterate⟩
  · rw [hnum, hiterate, List.countP_append, hw.outstanding]
    by_cases hout : p.outstanding <;> simp [hout]
  · rw [hiterate]
    intro e he
    rcases List.mem_append.mp he with he | he
    · exact hw.included e he
    · rw [List.mem_singleton.mp he]
      exact hp
  · rw [hpackets]
    have hhead := hw.head
    cases hslots : h.packets with
    | nil => simp
    | cons slot slots => simpa [hslots] using hhead

/-- **A packet that was sent** is tracked. -/
theorem WellFormed.sentPacket (hw : WellFormed h) (pn : PacketNumber)
    (hp : p.includedInBytesInFlight = true →
      p.isPathProbePacket = false ∧ p.isAckEliciting = true) :
    Holds Misuse (fun h' => WellFormed h' ∧ ∃ pn', h'.iterate = h.iterate ++ [(pn', p)])
      (h.sentPacket pn p) := by
  refine (hw.check pn).bind fun h₁ ⟨hw₁, hiterate⟩ => ?_
  exact hw₁.add hiterate hp rfl rfl rfl hw₁.probes

/-- A path probe packet that was sent leaves a stub. -/
theorem WellFormed.sentPathProbePacket (hw : WellFormed h) (pn : PacketNumber)
    (hp : p.includedInBytesInFlight = false) :
    Holds Misuse (fun h' => WellFormed h' ∧
        ∃ pn', h'.iterate = h.iterate ++ [(pn', { isPathProbePacket := true })])
      (h.sentPathProbePacket pn p) := by
  refine (hw.check pn).bind fun h₁ ⟨hw₁, hiterate⟩ => ?_
  refine hw₁.add hiterate (by simp) rfl rfl rfl ?_
  exact List.forall_mem_append.mpr ⟨hw₁.probes, List.forall_mem_singleton.mpr hp⟩

theorem WellFormed.skippedPacket (hw : WellFormed h) (pn : PacketNumber) :
    Holds Misuse (fun h' => WellFormed h' ∧ h'.iterate = h.iterate) (h.skippedPacket pn) := by
  refine (hw.check pn).bind fun h₁ ⟨hw₁, hiterate⟩ => ?_
  have hnext : packetsFrom h₁.firstPacketNumber
      (if h₁.packets.isEmpty then h₁.packets else h₁.packets ++ [none]) = h₁.iterate := by
    split
    · rfl
    · rw [packetsFrom_append]
      simp [packetsFrom, iterate]
  refine ⟨⟨⟨?_, ?_, hw₁.probes⟩, ?_⟩, hnext.trans hiterate⟩
  · exact hw₁.outstanding.trans (congrArg (fun l => (List.countP _ l : Int)) hnext.symm)
  · exact fun e he => hw₁.included e (hnext ▸ he)
  · have hhead := hw₁.head
    cases hslots : h₁.packets with
    | nil => simp
    | cons slot slots => simpa [hslots] using hhead

/-! ## numbers in sequence -/

/-- The slice ends at the highest number. -/
def Aligned (h : SentPacketHistory φ) : Prop :=
  h.packets ≠ [] → 0 ≤ h.highestPacketNumber ∧
    h.firstPacketNumber + h.packets.length = h.highestPacketNumber + 1

/-- The number that is taken belongs to the next place. -/
theorem Aligned.check (ha : Aligned h) (pn : PacketNumber) :
    Holds Misuse (fun h' => h'.packets = h.packets ∧ h'.iterate = h.iterate ∧
        h'.pathProbePackets = h.pathProbePackets ∧ h'.highestPacketNumber = pn ∧
        h'.firstPacketNumber + h'.packets.length = pn)
      (h.checkSequentialPacketNumberUse pn) := by
  unfold checkSequentialPacketNumberUse
  split
  · trivial
  · next hseq =>
    cases hslots : h.packets with
    | nil => simp [iterate, packetsFrom, hslots]
    | cons slot slots =>
      obtain ⟨hhigh, hlast⟩ := ha (by simp [hslots])
      have hne : h.highestPacketNumber ≠ InvalidPacketNumber := by
        intro hinvalid
        rw [hinvalid] at hhigh
        cases hhigh
      have hnext : pn = h.highestPacketNumber + 1 := by
        by_contra hgap
        exact hseq ⟨hne, hgap⟩
      rw [hslots] at hlast
      simpa [iterate, hslots, hnext] using hlast

theorem Aligned.sentPacket (ha : Aligned h) {pn : PacketNumber} (hpn : 0 ≤ pn) (p : Packet φ) :
    Holds Misuse (fun h' => Aligned h' ∧ h'.iterate = h.iterate ++ [(pn, p)] ∧
        h'.pathProbePackets = h.pathProbePackets) (h.sentPacket pn p) := by
  refine (ha.check pn).bind fun h₁ ⟨hpackets, hiterate, hprobes, hhigh, hnumber⟩ => ?_
  refine ⟨fun _ => ?_, ?_, hprobes⟩
  · simp only [List.length_append, List.length_singleton, hhigh]
    grind
  · rw [← hiterate, iterate, packetsFrom_append, hnumber]
    rfl

theorem Aligned.skippedPacket (ha : Aligned h) {pn : PacketNumber} (hpn : 0 ≤ pn) :
    Holds Misuse (fun h' => Aligned h' ∧ h'.pathProbePackets = h.pathProbePackets)
      (h.skippedPacket pn) := by
  refine (ha.check pn).bind fun h₁ ⟨hpackets, _, hprobes, hhigh, hnumber⟩ => ?_
  refine ⟨fun hne => ?_, hprobes⟩
  dsimp only at hne ⊢
  split at hne
  · next hempty => exact absurd (List.isEmpty_iff.mp hempty) hne
  · next hsome =>
    rw [if_neg hsome]
    simp only [List.length_append, List.length_singleton, hhigh]
    grind

/-! ## packets that are forgotten -/

/-- What a history keeps when it forgets packets. -/
structure SameNumbers (h h' : SentPacketHistory φ) : Prop where
  pathProbePackets : h'.pathProbePackets = h.pathProbePackets
  skippedPackets : h'.skippedPackets = h.skippedPackets
  aligned : Aligned h → Aligned h'

theorem SameNumbers.trans {h h₁ h' : SentPacketHistory φ} (hsame : SameNumbers h h₁)
    (hsame' : SameNumbers h₁ h') : SameNumbers h h' where
  pathProbePackets := hsame'.pathProbePackets.trans hsame.pathProbePackets
  skippedPackets := hsame'.skippedPackets.trans hsame.skippedPackets
  aligned := fun ha => hsame'.aligned (hsame.aligned ha)

/-- `h'` tracks what `h` tracks, without `e`. -/
structure Forgets (h : SentPacketHistory φ) (e : NumberedPacket φ) (h' : SentPacketHistory φ) :
    Prop extends SameNumbers h h' where
  perm : h.iterate.Perm (e :: h'.iterate)
  wellFormed : WellFormed h'

/-- The slice without its empty places at the beginning. -/
theorem iterate_cleanupStart (h : SentPacketHistory φ) : h.cleanupStart.iterate = h.iterate := by
  have hdrop := packetsFrom_dropWhile h.firstPacketNumber h.packets
  unfold cleanupStart
  dsimp only
  split
  · exact hdrop
  · next hall =>
    rw [List.drop_eq_nil_of_le (Nat.not_lt.mp hall)] at hdrop
    exact hdrop

theorem head?_cleanupStart (h : SentPacketHistory φ) :
    h.cleanupStart.packets.head? ≠ some none := by
  unfold cleanupStart
  dsimp only
  split
  · simp only
    induction h.packets with
    | nil => simp
    | cons slot slots ih =>
      cases slot with
      | none => simpa using ih
      | some p => simp
  · simp

/-- The place of a tracked packet. -/
theorem getIndex_of_mem (he : e ∈ h.iterate) :
    ∃ l l', h.packets = l ++ some e.2 :: l' ∧ e.1 = h.firstPacketNumber + l.length ∧
      h.getIndex e.1 = some l.length := by
  obtain ⟨l, l', hsplit, hnumber⟩ := split_of_mem_packetsFrom he
  refine ⟨l, l', hsplit, hnumber, ?_⟩
  have hidx : (e.1 - h.firstPacketNumber).toNat = l.length := by
    rw [hnumber]
    grind
  have hlow : ¬ e.1 < h.firstPacketNumber := by
    rw [hnumber]
    grind
  have hhigh : ¬ l.length > h.packets.length - 1 := by
    simp [hsplit]
  have hne : h.packets.isEmpty = false := by
    simp [hsplit]
  rw [getIndex, hidx, if_neg (by simp [hne]), if_neg hlow, if_neg hhigh]

theorem sameNumbers_cleanupStart (h : SentPacketHistory φ) : SameNumbers h h.cleanupStart := by
  unfold cleanupStart
  dsimp only
  split
  · next hlt =>
    refine ⟨rfl, rfl, fun ha hne => ?_⟩
    have hbefore := ha fun hnil => by simp [hnil] at hlt
    refine ⟨hbefore.1, ?_⟩
    simp only [List.length_drop]
    grind
  · exact ⟨rfl, rfl, fun _ hne => absurd rfl hne⟩

theorem Counted.cleanupStart (hc : Counted h) : WellFormed h.cleanupStart := by
  have hiterate := iterate_cleanupStart h
  have hnum : h.cleanupStart.numOutstanding = h.numOutstanding := by
    unfold SentPacketHistory.cleanupStart
    dsimp only
    split <;> rfl
  refine ⟨⟨?_, ?_, ?_⟩, head?_cleanupStart h⟩
  · rw [hnum, hiterate, hc.outstanding]
  · rw [hiterate]
    exact hc.included
  · rw [(sameNumbers_cleanupStart h).pathProbePackets]
    exact hc.probes

/-- The history after a packet was taken out of its place. -/
def vacate (h : SentPacketHistory φ) (l l' : List (Option (Packet φ))) (p : Packet φ) :
    SentPacketHistory φ :=
  { h with
    packets := l ++ none :: l'
    numOutstanding := if p.outstanding then h.numOutstanding - 1 else h.numOutstanding }

/-- A tracked packet is taken out of its place. -/
theorem clearSlot_of_mem (hc : Counted h) (he : e ∈ h.iterate) :
    ∃ l l', h.packets = l ++ some e.2 :: l' ∧ h.getIndex e.1 = some l.length ∧
      h.clearSlot l.length = .ok (h.vacate l l' e.2) ∧
      h.iterate.Perm (e :: (h.vacate l l' e.2).iterate) ∧ Counted (h.vacate l l' e.2) := by
  obtain ⟨l, l', hsplit, hnumber, hindex⟩ := getIndex_of_mem he
  have hbefore : h.iterate = packetsFrom h.firstPacketNumber l ++
      e :: packetsFrom (h.firstPacketNumber + l.length + 1) l' := by
    rw [iterate, hsplit, packetsFrom_append, packetsFrom, ← hnumber]
  have hafter : (h.vacate l l' e.2).iterate = packetsFrom h.firstPacketNumber l ++
      packetsFrom (h.firstPacketNumber + l.length + 1) l' := by
    rw [iterate, vacate, packetsFrom_append, packetsFrom]
  have hperm : h.iterate.Perm (e :: (h.vacate l l' e.2).iterate) := by
    rw [hbefore, hafter]
    exact List.perm_middle
  have hcount := hperm.countP_eq fun e => e.2.outstanding
  rw [List.countP_cons] at hcount
  have hnum := hc.outstanding
  refine ⟨l, l', hsplit, hindex, ?_, hperm, ?_, ?_, hc.probes⟩
  · -- the counter counts this packet
    have hpos : ¬ (e.2.outstanding = true ∧
        (if e.2.outstanding then h.numOutstanding - 1 else h.numOutstanding) < 0) := by
      rintro ⟨hout, hneg⟩
      rw [if_pos hout] at hneg hcount
      omega
    have hslot : h.packets[l.length]? = some (some e.2) := by
      rw [hsplit]
      simp
    have hset : h.packets.set l.length none = l ++ none :: l' := by
      rw [hsplit]
      simp
    simp only [clearSlot, hslot, if_neg hpos, hset]
    rfl
  · have hleft : (h.vacate l l' e.2).numOutstanding =
        if e.2.outstanding then h.numOutstanding - 1 else h.numOutstanding := rfl
    rw [hleft]
    split at hcount
    · next hout =>
      rw [if_pos hout]
      omega
    · next hout =>
      rw [if_neg hout]
      omega
  · exact fun e' he' => hc.included e' (hperm.mem_iff.mpr (List.mem_cons_of_mem _ he'))

theorem sameNumbers_vacate {l l' : List (Option (Packet φ))}
    (hsplit : h.packets = l ++ some p :: l') : SameNumbers h (h.vacate l l' p) := by
  refine ⟨rfl, rfl, fun ha _ => ?_⟩
  have hbefore := ha (by simp [hsplit])
  simpa [vacate, hsplit] using hbefore

/-- A first place that was not empty is not emptied when a later packet is taken out. -/
theorem head?_vacate (hw : WellFormed h)
    {l l' : List (Option (Packet φ))} (hsplit : h.packets = l ++ some p :: l')
    (hne : l ≠ []) : (h.vacate l l' p).packets.head? ≠ some none := by
  have hhead := hw.head
  rw [hsplit] at hhead
  cases l with
  | nil => exact absurd rfl hne
  | cons slot slots => exact hhead

/-- **Losing** a tracked packet. -/
theorem WellFormed.declareLost (hw : WellFormed h) (he : e ∈ h.iterate) :
    Holds Misuse (Forgets h e) (h.declareLost e.1) := by
  obtain ⟨l, l', hsplit, hindex, hclear, hperm, hcounted⟩ := clearSlot_of_mem hw.toCounted he
  simp only [SentPacketHistory.declareLost, hindex, hclear, bind, Except.bind, holds_pure]
  have hsame := sameNumbers_vacate hsplit
  split
  · refine ⟨hsame.trans (sameNumbers_cleanupStart _), ?_, hcounted.cleanupStart⟩
    rw [iterate_cleanupStart]
    exact hperm
  · next hfirst =>
    refine ⟨hsame, hperm, hcounted, ?_⟩
    exact head?_vacate hw hsplit fun hnil => hfirst (by simp [hnil])

theorem any_isNone_head?_eq_false (hw : WellFormed h) :
    h.packets.head?.any Option.isNone = false := by
  have hhead := hw.head
  cases hfirst : h.packets.head? with
  | none => rfl
  | some slot =>
    cases slot with
    | none => exact absurd hfirst hhead
    | some p => rfl

/-- **Removing** a tracked packet. -/
theorem WellFormed.remove (hw : WellFormed h) (he : e ∈ h.iterate) :
    Holds Misuse (fun result => ∃ h', result = some h' ∧ Forgets h e h') (h.remove e.1) := by
  obtain ⟨l, l', hsplit, hindex, hclear, hperm, hcounted⟩ := clearSlot_of_mem hw.toCounted he
  have hforgets : Forgets h e (if ((h.vacate l l' e.2).packets.take l.length).any Option.isSome
      then h.vacate l l' e.2 else (h.vacate l l' e.2).cleanupStart) := by
    have hsame := sameNumbers_vacate hsplit
    split
    · next hbefore =>
      refine ⟨hsame, hperm, hcounted, head?_vacate hw hsplit ?_⟩
      rintro rfl
      simp at hbefore
    · refine ⟨hsame.trans (sameNumbers_cleanupStart _), ?_, hcounted.cleanupStart⟩
      rw [iterate_cleanupStart]
      exact hperm
  simp only [SentPacketHistory.remove, hindex, hclear, bind, Except.bind]
  rw [any_isNone_head?_eq_false hforgets.wellFormed]
  exact ⟨_, rfl, hforgets⟩

end SentPacketHistory

end MoqQuic.Quic
