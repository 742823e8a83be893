import MoqQuic.Quic.SentPacketHandler

/-!
# MoqQuic.Quic.SentPacketHandler.AckRanges

Which packets an ACK frame acknowledges.

`AcksPacket` finds the range of a packet by bisection;
`detectAndRemoveAckedPackets` walks over the ranges from the lowest up while it goes through
the history. Both agree with `Contains`: the walk never reaches a packet above the range that
it looks at (`foldl_collectAcked`), so the error for that is never returned.
-/

namespace MoqQuic.Quic

namespace AckFrame

def Contains (ack : AckFrame) (pn : PacketNumber) : Prop :=
  ∃ r ∈ ack.ackRanges, r.smallest ≤ pn ∧ pn ≤ r.largest

theorem find?_any_iff {ranges : List AckRange}
    (hdesc : ranges.Pairwise fun r r' => r'.largest + 1 < r.smallest) (pn : Int) :
    (ranges.find? fun r => decide (pn ≥ r.smallest)).any (fun r => decide (pn ≤ r.largest)) = true ↔
      ∃ r ∈ ranges, r.smallest ≤ pn ∧ pn ≤ r.largest := by
  induction ranges with
  | nil => simp
  | cons r ranges ih =>
    have hbelow := (List.pairwise_cons.mp hdesc).1
    have ih := ih (List.pairwise_cons.mp hdesc).2
    by_cases hr : pn ≥ r.smallest
    · rw [List.find?_cons_of_pos (by simpa using hr)]
      constructor
      · intro hle
        exact ⟨r, List.mem_cons_self, hr, by simpa using hle⟩
      · rintro ⟨r', hr', hlow, hhigh⟩
        rcases List.mem_cons.mp hr' with rfl | hr'
        · simpa using hhigh
        · have := hbelow r' hr'
          grind
    · rw [List.find?_cons_of_neg (by simpa using hr), ih]
      constructor
      · rintro ⟨r', hr', hin⟩
        exact ⟨r', List.mem_cons_of_mem r hr', hin⟩
      · rintro ⟨r', hr', hlow, hhigh⟩
        rcases List.mem_cons.mp hr' with rfl | hr'
        · exact absurd hlow hr
        · exact ⟨r', hr', hlow, hhigh⟩

theorem le_largestAcked (ack : AckFrame) {r : AckRange} (hr : r ∈ ack.ackRanges) :
    r.largest ≤ ack.largestAcked := by
  obtain ⟨ranges, hne, hvalid, hdesc⟩ := ack
  cases ranges with
  | nil => exact absurd rfl hne
  | cons first ranges =>
    rcases List.mem_cons.mp hr with rfl | hr
    · exact Int.le_refl _
    · have hbelow := (List.pairwise_cons.mp hdesc).1 r hr
      have hfirst := hvalid first List.mem_cons_self
      simp only [largestAcked, List.head_cons]
      grind

theorem lowestAcked_le (ack : AckFrame) {r : AckRange} (hr : r ∈ ack.ackRanges) :
    ack.lowestAcked ≤ r.smallest := by
  obtain ⟨ranges, hne, hvalid, hdesc⟩ := ack
  simp only at hr
  have hsplit := List.dropLast_append_getLast hne
  rw [← hsplit] at hr hdesc
  have hbelow := (List.pairwise_append.mp hdesc).2.2
  have hlast := hvalid _ (List.getLast_mem hne)
  rcases List.mem_append.mp hr with hr | hr
  · have := hbelow r hr _ List.mem_cons_self
    simp only [lowestAcked]
    grind
  · rw [List.mem_singleton.mp hr]
    exact Int.le_refl _

/-- The search by bisection finds what a search from the highest range down finds. -/
theorem searchRange_eq_find? {ranges : List AckRange}
    (hvalid : ∀ r ∈ ranges, r.smallest ≤ r.largest)
    (hdesc : ranges.Pairwise fun r r' => r'.largest + 1 < r.smallest) (pn : PacketNumber) :
    searchRange ranges pn = ranges.find? fun r => decide (pn ≥ r.smallest) := by
  refine Bisect.getElem?_search (hdesc.imp_of_mem fun {r r'} _ hr' hlt hle => ?_)
  have hr' := hvalid r' hr'
  simp only [decide_eq_true_eq] at hle ⊢
  grind

theorem acksPacket_iff (ack : AckFrame) (pn : PacketNumber) :
    ack.acksPacket pn = true ↔ ack.Contains pn := by
  unfold acksPacket
  split
  · next hout =>
    constructor
    · intro hfalse
      cases hfalse
    · rintro ⟨r, hr, hlow, hhigh⟩
      have hle := ack.le_largestAcked hr
      have hge := ack.lowestAcked_le hr
      grind
  · rw [searchRange_eq_find? ack.valid ack.descending]
    exact find?_any_iff ack.descending pn

end AckFrame

namespace SentPacketHandler

variable {φ : Type}

/-- **The walk over the ranges**: it stops at the first range that does not lie below the
number, if there is one. -/
theorem advanceRange_spec {pn : Int} :
    ∀ {ranges : List AckRange} (_ : ∃ r ∈ ranges, pn ≤ r.largest),
      ∃ passed r rest, advanceRange pn ranges = r :: rest ∧ ranges = passed ++ r :: rest ∧
        (∀ r' ∈ passed, r'.largest < pn) ∧ pn ≤ r.largest
  | [], h => by simp at h
  | [r], h => by
    obtain ⟨r', hr', hle⟩ := h
    rw [List.mem_singleton.mp hr'] at hle
    exact ⟨[], r, [], rfl, rfl, by simp, hle⟩
  | r :: r' :: rest, h => by
    unfold advanceRange
    split
    · next hgt =>
      have hlater : ∃ r'' ∈ r' :: rest, pn ≤ r''.largest := by
        obtain ⟨r'', hr'', hle⟩ := h
        rcases List.mem_cons.mp hr'' with rfl | hr''
        · exact absurd hgt (Int.not_lt.mpr hle)
        · exact ⟨r'', hr'', hle⟩
      obtain ⟨passed, s, rest', heq, hsplit, hpassed, hs⟩ := advanceRange_spec hlater
      refine ⟨r :: passed, s, rest', heq, by rw [hsplit]; rfl, ?_, hs⟩
      exact List.forall_mem_cons.mpr ⟨hgt, hpassed⟩
    · next hle => exact ⟨[], r, r' :: rest, rfl, rfl, by simp, Int.not_lt.mp hle⟩

/-- The ranges that the walk has left behind lie below the number. -/
def Walking (ack : AckFrame) (pn : PacketNumber) (ranges : List AckRange) : Prop :=
  ∃ passed, ack.ackRanges.reverse = passed ++ ranges ∧ ∀ r ∈ passed, r.largest < pn

theorem Walking.start (ack : AckFrame) (pn : PacketNumber) :
    Walking ack pn ack.ackRanges.reverse := ⟨[], rfl, by simp⟩

variable {ranges : List AckRange}

theorem Walking.mono {ack : AckFrame} {pn pn' : PacketNumber}
    (hw : Walking ack pn ranges) (hle : pn ≤ pn') : Walking ack pn' ranges := by
  obtain ⟨passed, hsplit, hpassed⟩ := hw
  exact ⟨passed, hsplit, fun r hr => Int.lt_of_lt_of_le (hpassed r hr) hle⟩

variable {pn : PacketNumber}

/-- The walk does not leave the highest range behind. -/
theorem Walking.exists_le {ack : AckFrame} (hw : Walking ack pn ranges)
    (hle : pn ≤ ack.largestAcked) :
    ∃ r ∈ ranges, pn ≤ r.largest := by
  obtain ⟨passed, hsplit, hpassed⟩ := hw
  have hmem : ack.ackRanges.head ack.nonempty ∈ passed ++ ranges := by
    rw [← hsplit, List.mem_reverse]
    exact List.head_mem ack.nonempty
  rcases List.mem_append.mp hmem with hmem | hmem
  · exact absurd hle (Int.not_le.mpr (hpassed _ hmem))
  · exact ⟨_, hmem, hle⟩

/-- A walk that has stopped at a range knows whether the number is acknowledged. -/
theorem Walking.contains_iff {ack : AckFrame} {r : AckRange} {rest : List AckRange}
    (hw : Walking ack pn (r :: rest)) (hle : pn ≤ r.largest) :
    ack.Contains pn ↔ r.smallest ≤ pn := by
  obtain ⟨passed, hsplit, hpassed⟩ := hw
  have hasc : (passed ++ r :: rest).Pairwise fun r r' => r.largest + 1 < r'.smallest := by
    rw [← hsplit]
    exact List.pairwise_reverse.mpr ack.descending
  have habove := (List.pairwise_cons.mp (List.pairwise_append.mp hasc).2.1).1
  constructor
  · rintro ⟨r', hr', hlow, hhigh⟩
    rw [← List.mem_reverse, hsplit] at hr'
    rcases List.mem_append.mp hr' with hr' | hr'
    · have := hpassed r' hr'
      grind
    · rcases List.mem_cons.mp hr' with rfl | hr'
      · exact hlow
      · have := habove r' hr'
        grind
  · intro hlow
    refine ⟨r, ?_, hlow, hle⟩
    rw [← List.mem_reverse, hsplit]
    exact List.mem_append_right _ List.mem_cons_self

theorem contains_of_single {ack : AckFrame} (hone : ack.hasMissingRanges = false)
    (hlow : ack.lowestAcked ≤ pn) (hhigh : pn ≤ ack.largestAcked) :
    ack.Contains pn := by
  obtain ⟨ranges, hne, hvalid, hdesc⟩ := ack
  match ranges, hne with
  | [r], _ => exact ⟨r, List.mem_singleton.mpr rfl, hlow, hhigh⟩
  | _ :: _ :: _, _ => simp [AckFrame.hasMissingRanges] at hone

variable {ack : AckFrame} {c : Collecting φ} {e : NumberedPacket φ}

/-- One round of the loop: the packet is collected if it is acknowledged. -/
theorem Walking.collectAcked (hw : Walking ack e.1 c.ranges) (herr : c.error = none)
    (hlow : ack.lowestAcked ≤ e.1) (hhigh : e.1 ≤ ack.largestAcked) :
    ∃ ranges, Walking ack e.1 ranges ∧
      collectAcked ack c e =
        if ack.acksPacket e.1 then Collecting.add { c with ranges := ranges } e
        else { c with ranges := ranges } := by
  unfold SentPacketHandler.collectAcked
  rw [if_neg (by simp [herr])]
  by_cases hmissing : ack.hasMissingRanges = true
  · rw [if_pos hmissing]
    obtain ⟨passed, r, rest, heq, hsplit, hpassed, hle⟩ := advanceRange_spec (hw.exists_le hhigh)
    have hw' : Walking ack e.1 (r :: rest) := by
      obtain ⟨passed', hsplit', hpassed'⟩ := hw
      refine ⟨passed' ++ passed, by rw [hsplit', hsplit, List.append_assoc], ?_⟩
      exact List.forall_mem_append.mpr ⟨hpassed', hpassed⟩
    refine ⟨r :: rest, hw', ?_⟩
    have hacks : ack.acksPacket e.1 = true ↔ r.smallest ≤ e.1 :=
      (ack.acksPacket_iff e.1).trans (hw'.contains_iff hle)
    rw [heq]
    dsimp only
    by_cases hin : r.smallest ≤ e.1
    · rw [if_neg (Int.not_lt.mpr hin), if_neg (Int.not_lt.mpr hle), if_pos (hacks.mpr hin)]
    · rw [if_pos (Int.not_le.mp hin), if_neg (mt hacks.mp hin)]
  · rw [if_neg hmissing]
    have hacks : ack.acksPacket e.1 = true :=
      (ack.acksPacket_iff e.1).mpr (contains_of_single (by simpa using hmissing) hlow hhigh)
    exact ⟨c.ranges, hw, by rw [if_pos hacks]⟩

theorem add_ranges (c : Collecting φ) (e : NumberedPacket φ) (ranges : List AckRange) :
    Collecting.add { c with ranges := ranges } e = { c.add e with ranges := ranges } ∧
      (c.add e).error = c.error := by
  unfold Collecting.add
  split
  · dsimp only
    split <;> exact ⟨rfl, rfl⟩
  · exact ⟨rfl, rfl⟩

theorem foldl_add_ranges (packets : List (NumberedPacket φ)) (ranges : List AckRange) :
    ∀ c : Collecting φ, packets.foldl Collecting.add { c with ranges := ranges } =
      { packets.foldl Collecting.add c with ranges := ranges } := by
  induction packets with
  | nil => exact fun c => rfl
  | cons e packets ih =>
    intro c
    rw [List.foldl_cons, (add_ranges c e ranges).1, ih, List.foldl_cons]

/-- **The whole loop** collects the packets that are acknowledged, and finds no error. -/
theorem foldl_collectAcked (packets : List (NumberedPacket φ)) :
    ∀ c : Collecting φ, c.error = none → packets.Pairwise (fun e e' => e.1 < e'.1) →
      (∀ e ∈ packets, ack.lowestAcked ≤ e.1 ∧ e.1 ≤ ack.largestAcked) →
      (∀ e ∈ packets, Walking ack e.1 c.ranges) →
      ∃ ranges, packets.foldl (SentPacketHandler.collectAcked ack) c =
        { (packets.filter fun e => ack.acksPacket e.1).foldl Collecting.add c with
          ranges := ranges } := by
  induction packets with
  | nil => exact fun c _ _ _ _ => ⟨c.ranges, rfl⟩
  | cons e packets ih =>
    intro c herr hsorted hbounds hwalk
    obtain ⟨hlow, hhigh⟩ := hbounds e List.mem_cons_self
    obtain ⟨ranges, hw, hround⟩ :=
      (hwalk e List.mem_cons_self).collectAcked herr hlow hhigh
    have hlater := (List.pairwise_cons.mp hsorted).1
    have hsorted' := (List.pairwise_cons.mp hsorted).2
    have hbounds' : ∀ e' ∈ packets, ack.lowestAcked ≤ e'.1 ∧ e'.1 ≤ ack.largestAcked :=
      fun e' he' => hbounds e' (List.mem_cons_of_mem e he')
    have hwalk' : ∀ e' ∈ packets, Walking ack e'.1 ranges :=
      fun e' he' => hw.mono (Int.le_of_lt (hlater e' he'))
    rw [List.foldl_cons, hround, List.filter_cons]
    split
    · have herr' : ({ c.add e with ranges := ranges } : Collecting φ).error = none :=
        (add_ranges c e ranges).2.trans herr
      obtain ⟨ranges', heq⟩ := ih _ herr' hsorted' hbounds' hwalk'
      refine ⟨ranges', ?_⟩
      rw [(add_ranges c e ranges).1, heq, foldl_add_ranges, List.foldl_cons]
    · obtain ⟨ranges', heq⟩ := ih { c with ranges := ranges } herr hsorted' hbounds' hwalk'
      refine ⟨ranges', ?_⟩
      rw [heq, foldl_add_ranges]

variable {packets : List (NumberedPacket φ)}

/-- In a list that is sorted, breaking off is filtering. -/
theorem takeWhile_eq_filter (hsorted : packets.Pairwise fun e e' => e.1 < e'.1) (m : PacketNumber) :
    packets.takeWhile (fun e => decide (e.1 ≤ m)) = packets.filter fun e => decide (e.1 ≤ m) := by
  induction packets with
  | nil => rfl
  | cons e packets ih =>
    have hlater := (List.pairwise_cons.mp hsorted).1
    rw [List.takeWhile_cons, List.filter_cons, ih (List.pairwise_cons.mp hsorted).2]
    split
    · rfl
    · next hgt =>
      symm
      rw [List.filter_eq_nil_iff]
      intro e' he'
      have := hlater e' he'
      simp only [decide_eq_true_eq] at hgt ⊢
      grind

/-- The packets that the loop goes through contain all that are acknowledged. -/
theorem filter_candidates (hsorted : packets.Pairwise fun e e' => e.1 < e'.1) (ack : AckFrame) :
    ((packets.takeWhile fun e => decide (e.1 ≤ ack.largestAcked)).filter fun e =>
        decide (ack.lowestAcked ≤ e.1)).filter (fun e => ack.acksPacket e.1) =
      packets.filter fun e => ack.acksPacket e.1 := by
  rw [takeWhile_eq_filter hsorted, List.filter_filter, List.filter_filter]
  refine List.filter_congr fun e _ => ?_
  cases hacks : ack.acksPacket e.1 with
  | false => rfl
  | true =>
    obtain ⟨r, hr, hlow, hhigh⟩ := (ack.acksPacket_iff e.1).mp hacks
    have hle := Int.le_trans hhigh (ack.le_largestAcked hr)
    have hge := Int.le_trans (ack.lowestAcked_le hr) hlow
    simp [hle, hge]

end SentPacketHandler

end MoqQuic.Quic
