import MoqQuic.Lib.Machine
import MoqQuic.Quic.ReceivedPacketHistory

/-!
# MoqQuic.Quic.ReceivedPacketHistory.Exact

The ranges of the history stand for the packet numbers that are remembered.

Each loop is related to the set of elements of the ranges that it goes through: adding a packet adds
one element, deleting takes away what is below the limit, and the two searches find what the set
says.
-/

namespace MoqQuic.Quic.ReceivedPacketHistory

open ClosedRange Machine

variable {rs : List Interval} {p x : Int}

/-! ## adding a packet -/

/-- The number is in a range, or next to one. -/
def Touches (rs : List Interval) (p : Int) : Prop :=
  ∃ r ∈ rs, r.start - 1 ≤ p ∧ p ≤ r.stop + 1

/-- What `addToRanges` does to the ranges. -/
structure Adds (rs : List Interval) (p : Int) (r : Bool × List Interval) : Prop where
  descending : Descending r.2
  mem_iff : ∀ x, x ∈ elements r.2 ↔ x = p ∨ x ∈ elements rs
  isNew : r.1 = true ↔ p ∉ elements rs
  touching : Touches rs p → r.2.length ≤ rs.length
  apart : ¬ Touches rs p → r.2.length = rs.length + 1

variable {r : Interval}

theorem touches_cons : Touches (r :: rs) p ↔ r.start - 1 ≤ p ∧ p ≤ r.stop + 1 ∨ Touches rs p := by
  simp [Touches]

/-- What touches a lower range is below. -/
theorem lt_of_touches (h : Descending (r :: rs)) (ht : Touches rs p) : p < r.start := by
  obtain ⟨-, habove, hrest⟩ := descending_cons.mp h
  obtain ⟨r', hr', -, hp⟩ := ht
  have hlt := habove r'.stop ⟨r', hr', hrest.nonempty r' hr', le_rfl⟩
  omega

/-- The first range touches the packet and takes it in; it does not reach the other ranges. -/
theorem adds_extend {r r' : Interval} (hr' : Descending (r' :: rs))
    (htouch : r.start - 1 ≤ p ∧ p ≤ r.stop + 1) (hnot : ¬ (r.start ≤ p ∧ p ≤ r.stop))
    (hmem : ∀ x, r'.start ≤ x ∧ x ≤ r'.stop ↔ x = p ∨ r.start ≤ x ∧ x ≤ r.stop)
    (hp : p ∉ elements rs) : Adds (r :: rs) p (true, r' :: rs) where
  descending := hr'
  mem_iff x := by
    rw [mem_elements_cons, mem_elements_cons, hmem x, or_assoc]
  isNew := by
    rw [mem_elements_cons]
    exact ⟨fun _ hin => hin.elim hnot hp, fun _ => rfl⟩
  touching _ := le_rfl
  apart hapart := absurd (touches_cons.mpr (.inl htouch)) hapart

/-- The packet is the last one before the first range; it may be the next one after the second. -/
theorem adds_extendDown (h : Descending (r :: rs)) (hstart : r.start = p + 1) :
    Adds (r :: rs) p (true, extendDown p r rs) := by
  obtain ⟨hr, habove, hrest⟩ := descending_cons.mp h
  cases rs with
  | nil =>
    refine adds_extend (descending_cons.mpr ⟨by simp only; omega, by simp, hrest⟩)
      ⟨by omega, by omega⟩ (by omega) (fun x => ?_) (by simp)
    simp only
    omega
  | cons r' rs =>
    obtain ⟨hr', habove', hrest'⟩ := descending_cons.mp hrest
    have hlt := habove r'.stop (mem_elements_cons.mpr (.inl ⟨hr', le_rfl⟩))
    rw [extendDown]
    split
    · rename_i hmerge
      refine ⟨descending_cons.mpr ⟨by simp only; omega, habove', hrest'⟩, fun x => ?_, ?_,
        fun _ => Nat.le_succ _, fun hapart => ?_⟩
      · simp only [mem_elements_cons]
        grind
      · simp only [mem_elements_cons]
        grind
      · exact absurd (touches_cons.mpr (.inl ⟨by omega, by omega⟩)) hapart
    · rename_i hmerge
      have hp : ∀ x ∈ elements (r' :: rs), x + 1 < p := by
        intro x hx
        have hltx := habove x hx
        obtain hx | hx := mem_elements_cons.mp hx
        · omega
        · have hlt' := habove' x hx
          omega
      refine adds_extend (descending_cons.mpr ⟨by simp only; omega, hp, hrest⟩)
        ⟨by omega, by omega⟩ (by omega) (fun x => ?_) fun hin => ?_
      · simp only
        omega
      · have hltp := hp p hin
        omega

/-- **Adding a packet**. -/
theorem adds_addDown {rs : List Interval} (h : Descending rs) : Adds rs p (addDown p rs) := by
  induction rs with
  | nil =>
    refine ⟨descending_cons.mpr ⟨le_rfl, by simp, descending_nil⟩, fun x => ?_, by simp [addDown],
      fun ht => ?_, fun _ => rfl⟩
    · simp only [addDown, mem_elements_cons]
      grind
    · obtain ⟨r, hr, -⟩ := ht
      cases hr
  | cons r rs ih =>
    obtain ⟨hr, habove, hrest⟩ := descending_cons.mp h
    rw [addDown]
    split
    · -- the packet is in the first range
      rename_i hin
      refine ⟨h, fun x => ?_, ?_, fun _ => le_rfl, fun hapart => ?_⟩
      · rw [mem_elements_cons]
        grind
      · simp [hin]
      · exact absurd (touches_cons.mpr (.inl ⟨by omega, by omega⟩)) hapart
    rename_i hnot
    split
    · -- it is the next one after the first range
      rename_i hstop
      refine adds_extend (descending_cons.mpr ⟨by simp only; omega, habove, hrest⟩)
        ⟨by omega, by omega⟩ hnot (fun x => ?_) fun hp => ?_
      · simp only
        omega
      · have hlt := habove p hp
        omega
    split
    · -- it is the last one before the first range
      rename_i hstart
      exact adds_extendDown h hstart
    split
    · -- it is above the first range
      rename_i hgt
      refine ⟨descending_cons.mpr ⟨le_rfl, fun x hx => ?_, h⟩, fun x => ?_, ?_, fun ht => ?_,
        fun _ => rfl⟩
      · obtain hx | hx := mem_elements_cons.mp hx
        · simp only
          omega
        · have hlt := habove x hx
          simp only
          omega
      · rw [mem_elements_cons]
        simp only
        grind
      · refine ⟨fun _ hp => ?_, fun _ => rfl⟩
        obtain hp | hp := mem_elements_cons.mp hp
        · exact hnot hp
        · have hlt := habove p hp
          omega
      · obtain ht | ht := touches_cons.mp ht
        · omega
        · have hlt := lt_of_touches h ht
          omega
    · -- it is below the first range
      have hadds := ih hrest
      have htouch : Touches (r :: rs) p ↔ Touches rs p := by
        rw [touches_cons]
        grind
      refine ⟨descending_cons.mpr ⟨hr, fun x hx => ?_, hadds.descending⟩, fun x => ?_, ?_,
        fun ht => ?_, fun ht => ?_⟩
      · obtain rfl | hx := (hadds.mem_iff x).mp hx
        · omega
        · exact habove x hx
      · rw [mem_elements_cons, mem_elements_cons, hadds.mem_iff]
        exact or_left_comm
      · rw [hadds.isNew, mem_elements_cons]
        grind
      · exact Nat.succ_le_succ (hadds.touching (htouch.mp ht))
      · exact congrArg Nat.succ (hadds.apart (mt htouch.mpr ht))

/-! ## deleting -/

theorem mem_deleteUp {rs : List Interval} (h : Ascending rs) :
    x ∈ elements (deleteUp p rs) ↔ p ≤ x ∧ x ∈ elements rs := by
  induction rs with
  | nil => simp [deleteUp]
  | cons r rs ih =>
    obtain ⟨hr, hbelow, hrest⟩ := ascending_cons.mp h
    have hx : x ∈ elements rs → r.stop + 1 < x := hbelow x
    rw [deleteUp]
    split
    · rw [ih hrest, mem_elements_cons]
      grind
    split
    · simp only [mem_elements_cons]
      grind
    · rw [mem_elements_cons]
      grind

theorem ascending_deleteUp {rs : List Interval} (h : Ascending rs) :
    Ascending (deleteUp p rs) ∧ (deleteUp p rs).length ≤ rs.length := by
  induction rs with
  | nil => exact ⟨h, le_rfl⟩
  | cons r rs ih =>
    obtain ⟨hr, hbelow, hrest⟩ := ascending_cons.mp h
    rw [deleteUp]
    split
    · exact ⟨(ih hrest).1, Nat.le_succ_of_le (ih hrest).2⟩
    split
    · rename_i hin
      exact ⟨ascending_cons.mpr ⟨hin.2, hbelow, hrest⟩, le_rfl⟩
    · exact ⟨h, le_rfl⟩

/-! ## searching -/

theorem duplicateDown_iff {rs : List Interval} (h : Descending rs) :
    duplicateDown p rs = true ↔ p ∈ elements rs := by
  induction rs with
  | nil => simp [duplicateDown]
  | cons r rs ih =>
    obtain ⟨hr, habove, hrest⟩ := descending_cons.mp h
    have hp : p ∈ elements rs → p + 1 < r.start := habove p
    rw [duplicateDown, mem_elements_cons]
    split
    · grind
    split
    · grind
    · rw [ih hrest]
      grind

/-- Below a number that is missing, that number is the highest. -/
theorem missingDown_notMem {deletedBelow : Int} (hp : p ∉ elements rs) :
    missingDown deletedBelow p rs = p := by
  induction rs with
  | nil => rfl
  | cons r rs ih =>
    rw [mem_elements_cons, not_or] at hp
    rw [missingDown, if_neg hp.1]
    split
    · rfl
    · exact ih hp.2

/-- Below a number in a range, it is the one before the range. -/
theorem missingDown_mem {deletedBelow : Int} {rs : List Interval} (h : Descending rs)
    (hr : r ∈ rs) (hp : r.start ≤ p ∧ p ≤ r.stop) :
    missingDown deletedBelow p rs =
      if deletedBelow ≠ InvalidPacketNumber ∧ r.start - 1 < deletedBelow then InvalidPacketNumber
      else r.start - 1 := by
  induction rs with
  | nil => cases hr
  | cons r' rs ih =>
    obtain ⟨hr', habove, hrest⟩ := descending_cons.mp h
    obtain rfl | hr := List.mem_cons.mp hr
    · rw [missingDown, if_pos hp]
    · have hmem : p ∈ elements rs := ⟨r, hr, hp⟩
      have hlt := habove p hmem
      have hnext : rs.head?.any (fun r' => decide (p > r'.stop)) = false := by
        cases rs with
        | nil => rfl
        | cons r'' rs =>
          have hle := hrest.le_head hmem
          simpa using hle
      rw [missingDown, if_neg (by omega), if_neg (by simp [hnext]), ih hrest hr]

/-! ## the history -/

variable {h : ReceivedPacketHistory}

/-- The form that the history keeps. -/
structure WellFormed (h : ReceivedPacketHistory) : Prop where
  ascending : Ascending h.ranges
  length_le : h.ranges.length ≤ MaxNumAckRanges
  deletedBelow_le : ∀ x ∈ elements h.ranges, h.deletedBelow ≤ x
  invalid_le : InvalidPacketNumber ≤ h.deletedBelow

/-- The ranges with the packet, in ascending order. -/
def added (h : ReceivedPacketHistory) (p : PacketNumber) : List Interval :=
  (addDown p h.ranges.reverse).2.reverse

/-- The ranges that a packet makes the history forget. -/
def pruned (h : ReceivedPacketHistory) (p : PacketNumber) : List Interval :=
  if p < h.deletedBelow then [] else (h.added p).take ((h.added p).length - MaxNumAckRanges)

theorem receivedPacket_eq {p : PacketNumber} (hp : ¬ p < h.deletedBelow) :
    h.receivedPacket p = ((addDown p h.ranges.reverse).1,
      { h with ranges := (h.added p).drop ((h.added p).length - MaxNumAckRanges) }) := by
  rw [receivedPacket, if_neg hp]
  simp only [addToRanges, excess, ← added.eq_1]
  split
  · rfl
  · rename_i hle
    rw [Nat.sub_eq_zero_of_le (not_lt.mp hle), List.drop_zero]

theorem touches_reverse : Touches rs.reverse p ↔ Touches rs p := by
  simp [Touches]

theorem WellFormed.added (hw : WellFormed h) (p : PacketNumber) : Ascending (h.added p) ∧
    (∀ x, x ∈ elements (h.added p) ↔ x = p ∨ x ∈ elements h.ranges) ∧
    (Touches h.ranges p → (h.added p).length ≤ h.ranges.length) ∧
    (¬ Touches h.ranges p → (h.added p).length = h.ranges.length + 1) := by
  have hadds : Adds h.ranges.reverse p (addDown p h.ranges.reverse) :=
    adds_addDown (descending_reverse.mpr hw.ascending)
  refine ⟨descending_reverse.mp ?_, fun x => ?_, fun ht => ?_, fun ht => ?_⟩
  · rw [ReceivedPacketHistory.added, List.reverse_reverse]
    exact hadds.descending
  · rw [ReceivedPacketHistory.added, elements_reverse, hadds.mem_iff, elements_reverse]
  · have hle := hadds.touching (touches_reverse.mpr ht)
    rw [List.length_reverse] at hle
    rw [ReceivedPacketHistory.added, List.length_reverse]
    exact hle
  · have heq := hadds.apart (mt touches_reverse.mp ht)
    rw [List.length_reverse] at heq
    rw [ReceivedPacketHistory.added, List.length_reverse, heq]

/-- The ranges that are forgotten and those that are kept. -/
theorem mem_added (h : ReceivedPacketHistory) {p : PacketNumber} (hp : ¬ p < h.deletedBelow) :
    x ∈ elements (h.added p) ↔
      x ∈ elements (h.pruned p) ∨ x ∈ elements (h.receivedPacket p).2.ranges := by
  rw [receivedPacket_eq hp, pruned, if_neg hp, ← mem_elements_append, List.take_append_drop]

/-- Only the lowest ranges are forgotten. -/
theorem WellFormed.pruned_lt (hw : WellFormed h) (p : PacketNumber) {y : Int}
    (hx : x ∈ elements (h.pruned p)) (hy : y ∈ elements (h.receivedPacket p).2.ranges) :
    x < y := by
  by_cases hp : p < h.deletedBelow
  · rw [pruned, if_pos hp] at hx
    exact absurd hx notMem_elements_nil
  · rw [pruned, if_neg hp] at hx
    rw [receivedPacket_eq hp] at hy
    exact (hw.added p).1.take_lt_drop _ hx hy

/-- Something higher than what is forgotten is kept. -/
theorem WellFormed.exists_kept (hw : WellFormed h) (p : PacketNumber)
    (hx : x ∈ elements (h.pruned p)) : ∃ y ∈ elements (h.receivedPacket p).2.ranges, x < y := by
  have hkept : ∃ y, y ∈ elements (h.receivedPacket p).2.ranges := by
    by_cases hp : p < h.deletedBelow
    · rw [pruned, if_pos hp] at hx
      exact absurd hx notMem_elements_nil
    · rw [pruned, if_neg hp] at hx
      rw [receivedPacket_eq hp]
      obtain ⟨hasc, -⟩ := hw.added p
      cases hdrop : (h.added p).drop ((h.added p).length - MaxNumAckRanges) with
      | nil =>
        rw [List.drop_eq_nil_iff] at hdrop
        have hnil : (h.added p).length = 0 := by
          simp only [MaxNumAckRanges] at hdrop
          omega
        rw [List.length_eq_zero_iff.mp hnil, List.take_nil] at hx
        exact absurd hx notMem_elements_nil
      | cons r rs =>
        have hne := (hasc.drop ((h.added p).length - MaxNumAckRanges)).nonempty r
          (by rw [hdrop]; exact List.mem_cons_self)
        exact ⟨r.start, mem_elements_cons.mpr (.inl ⟨le_rfl, hne⟩)⟩
  obtain ⟨y, hy⟩ := hkept
  exact ⟨y, hy, hw.pruned_lt p hx hy⟩

theorem deletedBelow_receivedPacket (h : ReceivedPacketHistory) (p : PacketNumber) :
    (h.receivedPacket p).2.deletedBelow = h.deletedBelow := by
  by_cases hp : p < h.deletedBelow
  · rw [ReceivedPacketHistory.receivedPacket, if_pos hp]
  · rw [receivedPacket_eq hp]

section

variable (hw : WellFormed h) (p : PacketNumber)
include hw

/-- **`ReceivedPacket`** remembers the packet, without the ranges that are forgotten. -/
theorem WellFormed.mem_receivedPacket :
    x ∈ elements (h.receivedPacket p).2.ranges ↔
      (x = p ∧ h.deletedBelow ≤ p ∨ x ∈ elements h.ranges) ∧ x ∉ elements (h.pruned p) := by
  by_cases hp : p < h.deletedBelow
  · rw [receivedPacket, if_pos hp, pruned, if_pos hp]
    have hnot : ¬ h.deletedBelow ≤ p := not_le.mpr hp
    simp [hnot]
  · have hsplit := h.mem_added (x := x) hp
    rw [(hw.added p).2.1 x] at hsplit
    have hdisjoint := hw.pruned_lt (x := x) (y := x) p
    grind

theorem WellFormed.receivedPacket : WellFormed (h.receivedPacket p).2 := by
  by_cases hp : p < h.deletedBelow
  · rw [ReceivedPacketHistory.receivedPacket, if_pos hp]
    exact hw
  · have hmem := fun x => hw.mem_receivedPacket (x := x) p
    obtain ⟨hasc, -⟩ := hw.added p
    rw [receivedPacket_eq hp] at hmem ⊢
    refine ⟨hasc.drop _, ?_, fun x hx => ?_, hw.invalid_le⟩
    · rw [List.length_drop]
      omega
    · obtain ⟨⟨rfl, hle⟩ | hx, -⟩ := (hmem x).mp hx
      · exact hle
      · exact hw.deletedBelow_le x hx

/-- A packet is new unless it is remembered or too old. -/
theorem WellFormed.isNew_iff :
    (h.receivedPacket p).1 = true ↔ h.deletedBelow ≤ p ∧ p ∉ elements h.ranges := by
  by_cases hp : p < h.deletedBelow
  · rw [ReceivedPacketHistory.receivedPacket, if_pos hp]
    have hnot : ¬ h.deletedBelow ≤ p := not_le.mpr hp
    simp [hnot]
  · have hadds : Adds h.ranges.reverse p (addDown p h.ranges.reverse) :=
      adds_addDown (descending_reverse.mpr hw.ascending)
    have hle : h.deletedBelow ≤ p := not_lt.mp hp
    rw [receivedPacket_eq hp, hadds.isNew, elements_reverse]
    simp [hle]

theorem WellFormed.isPotentiallyDuplicate_iff :
    h.isPotentiallyDuplicate p = true ↔ p < h.deletedBelow ∨ p ∈ elements h.ranges := by
  rw [isPotentiallyDuplicate]
  split
  · rename_i hp
    simp [hp]
  · rename_i hp
    rw [duplicateDown_iff (descending_reverse.mpr hw.ascending), elements_reverse]
    simp [hp]

/-- Nothing is forgotten unless a range is added to a full list. -/
theorem WellFormed.pruned_eq_nil_iff :
    h.pruned p = [] ↔
      p < h.deletedBelow ∨ Touches h.ranges p ∨ h.ranges.length < MaxNumAckRanges := by
  obtain ⟨-, -, htouching, hapart⟩ := hw.added p
  have hle := hw.length_le
  by_cases hp : p < h.deletedBelow
  · simp [pruned, hp]
  · rw [pruned, if_neg hp, List.take_eq_nil_iff, ← List.length_eq_zero_iff]
    simp only [hp, false_or]
    by_cases ht : Touches h.ranges p
    · have hlen := htouching ht
      simp only [ht, true_or, iff_true]
      omega
    · have hlen := hapart ht
      simp only [ht, false_or]
      omega

/-- **`DeleteBelow`** forgets what is below the limit. -/
theorem WellFormed.deleteBelow :
    WellFormed (h.deleteBelow p) ∧ (h.deleteBelow p).deletedBelow = max p h.deletedBelow ∧
      ∀ x, x ∈ elements (h.deleteBelow p).ranges ↔
        (h.deleteBelow p).deletedBelow ≤ x ∧ x ∈ elements h.ranges := by
  rw [ReceivedPacketHistory.deleteBelow]
  split
  · rename_i hp
    refine ⟨hw, (max_eq_right (le_of_lt hp)).symm, fun x => ?_⟩
    exact ⟨fun hx => ⟨hw.deletedBelow_le x hx, hx⟩, And.right⟩
  · rename_i hp
    have hle : h.deletedBelow ≤ p := not_lt.mp hp
    obtain ⟨hasc, hlen⟩ := ascending_deleteUp (p := p) hw.ascending
    refine ⟨⟨hasc, hlen.trans hw.length_le, fun x hx => ?_, hw.invalid_le.trans hle⟩,
      (max_eq_left hle).symm, fun x => mem_deleteUp hw.ascending⟩
    exact ((mem_deleteUp hw.ascending).mp hx).1

end

/-- The numbers up to `p` and `m` that are missing, and not too old. -/
def missing (h : ReceivedPacketHistory) (m p : Int) : Set Int :=
  {x | max 0 h.deletedBelow ≤ x ∧ x ≤ min m p ∧ x ∉ elements h.ranges}

/-- What `HighestMissingUpTo` has to return. -/
def FindsMissing (h : ReceivedPacketHistory) (m p result : Int) : Prop :=
  IsGreatest (h.missing m p) result ∨ h.missing m p = ∅ ∧ result = InvalidPacketNumber

/-- A number that is missing is the highest one. -/
theorem findsMissing_notMem {m p : Int} (hm : 0 ≤ m)
    (hdeleted : h.deletedBelow ≤ m) (hp : 0 ≤ p) (hlimit : h.deletedBelow ≤ p)
    (hq : min m p ∉ elements h.ranges) : h.FindsMissing m p (min m p) :=
  .inl ⟨⟨max_le (le_min hm hp) (le_min hdeleted hlimit), le_rfl, hq⟩, fun _ hx => hx.2.1⟩

/-- Below a number in a range, the one before the range is the highest, unless it is too old. -/
theorem WellFormed.findsMissing_mem (hw : WellFormed h) (hpos : ∀ x ∈ elements h.ranges, 0 ≤ x)
    {m p : Int} (hr : r ∈ h.ranges) (hq : r.start ≤ min m p ∧ min m p ≤ r.stop) :
    h.FindsMissing m p
      (if h.deletedBelow ≠ InvalidPacketNumber ∧ r.start - 1 < h.deletedBelow then
        InvalidPacketNumber else r.start - 1) := by
  have hstart : r.start ∈ elements h.ranges := ⟨r, hr, le_rfl, hw.ascending.nonempty r hr⟩
  have hzero := hpos r.start hstart
  have hinvalid := hw.invalid_le
  have hbelow : ∀ x ∈ h.missing m p, x ≤ r.start - 1 := by
    intro x hx
    by_contra hlt
    exact hx.2.2 ⟨r, hr, by omega, hx.2.1.trans hq.2⟩
  have hnone : r.start - 1 < max 0 h.deletedBelow → h.missing m p = ∅ := by
    intro hlt
    refine Set.eq_empty_of_forall_notMem fun x hx => ?_
    exact absurd (hx.1.trans (hbelow x hx)) (not_le.mpr hlt)
  split
  · rename_i hold
    exact .inr ⟨hnone (hold.2.trans_le (le_max_right _ _)), rfl⟩
  · rename_i hnew
    by_cases hlt : r.start - 1 < max 0 h.deletedBelow
    · refine .inr ⟨hnone hlt, ?_⟩
      simp only [InvalidPacketNumber] at hinvalid hnew ⊢
      grind
    · refine .inl ⟨⟨not_lt.mp hlt, ?_, ?_⟩, hbelow⟩
      · exact (Int.sub_le_self _ (by decide)).trans hq.1
      · have hnotMem := (descending_reverse.mpr hw.ascending).pred_notMem (List.mem_reverse.mpr hr)
        rw [elements_reverse] at hnotMem
        exact hnotMem

/-- **`HighestMissingUpTo`** finds the greatest number up to `p` that is missing. -/
theorem WellFormed.highestMissingUpTo (hw : WellFormed h) (hpos : ∀ x ∈ elements h.ranges, 0 ≤ x)
    {m : Int} (hm : IsGreatest (elements h.ranges) m) {p : PacketNumber} (hp : 0 ≤ p) :
    h.FindsMissing m p (h.highestMissingUpTo p) := by
  have hdesc := descending_reverse.mpr hw.ascending
  rw [ReceivedPacketHistory.highestMissingUpTo, List.getLast?_eq_head?_reverse]
  rw [← elements_reverse] at hm
  cases hrev : h.ranges.reverse with
  | nil =>
    rw [hrev] at hm
    exact absurd hm.1 notMem_elements_nil
  | cons last rs =>
    rw [hrev] at hdesc hm
    have hstop : last.stop ∈ elements (last :: rs) :=
      mem_elements_cons.mpr (.inl ⟨(descending_cons.mp hdesc).1, le_rfl⟩)
    have hmax : last.stop = m := le_antisymm (hm.2 hstop) (hdesc.le_head hm.1)
    have hmem : m ∈ elements h.ranges := by
      rw [← elements_reverse, hrev]
      exact hm.1
    simp only [List.head?_cons, hmax]
    split
    · rename_i hold
      refine .inr ⟨Set.eq_empty_of_forall_notMem fun x hx => ?_, rfl⟩
      have hle := (le_max_right _ _).trans (hx.1.trans (hx.2.1.trans (min_le_right _ _)))
      exact absurd hle (not_le.mpr hold.2)
    · rename_i hnew
      by_cases hq : min m p ∈ elements h.ranges
      · have hq' := hq
        rw [← elements_reverse, hrev] at hq'
        obtain ⟨r, hr, hqr⟩ := hq'
        rw [missingDown_mem hdesc hr hqr]
        rw [← hrev, List.mem_reverse] at hr
        exact hw.findsMissing_mem hpos hr hqr
      · rw [missingDown_notMem (by rwa [← hrev, elements_reverse])]
        refine findsMissing_notMem (hpos m hmem) (hw.deletedBelow_le m hmem) hp ?_ hq
        simp only [InvalidPacketNumber] at hnew
        grind

/-! ## runs -/

/-- A history with what happened to it. -/
structure Run where
  history : ReceivedPacketHistory := {}
  /-- the packets that were passed to `ReceivedPacket` -/
  received : Set Int := ∅
  /-- those for which it said that they are new -/
  accepted : List PacketNumber := []
  /-- those in ranges that were forgotten since they were received, because there were too many -/
  dropped : Set Int := ∅

inductive Op where
  | receivedPacket (p : PacketNumber)
  | deleteBelow (p : PacketNumber)
  deriving DecidableEq, Repr

namespace Run

def step (l : Run) : Op → Run
  | .receivedPacket p =>
    let (isNew, history) := l.history.receivedPacket p
    { history := history
      received := l.received ∪ {p}
      accepted := if isNew then l.accepted ++ [p] else l.accepted
      dropped := l.dropped \ {p} ∪ elements (l.history.pruned p) }
  | .deleteBelow p => { l with history := l.history.deleteBelow p }

variable {l : Run}

/-- The ranges stand for what was received, is not too old and was not forgotten. -/
structure Exact (l : Run) : Prop where
  wellFormed : WellFormed l.history
  mem_iff : ∀ x, x ∈ elements l.history.ranges ↔
    x ∈ l.received ∧ l.history.deletedBelow ≤ x ∧ x ∉ l.dropped
  /-- what was received is too old, or something higher is remembered -/
  highest : ∀ x ∈ l.received, x < l.history.deletedBelow ∨ ∃ y ∈ elements l.history.ranges, x ≤ y

theorem Exact.receivedPacket (h : Exact l) (p : PacketNumber) :
    Exact (l.step (.receivedPacket p)) := by
  have hw := h.wellFormed
  have hdeleted := l.history.deletedBelow_receivedPacket p
  have hmem := fun x => hw.mem_receivedPacket (x := x) p
  -- what would be remembered is, or something higher
  have hkept : ∀ y, y = p ∧ l.history.deletedBelow ≤ p ∨ y ∈ elements l.history.ranges →
      ∃ z ∈ elements (l.history.receivedPacket p).2.ranges, y ≤ z := by
    intro y hy
    by_cases hpruned : y ∈ elements (l.history.pruned p)
    · obtain ⟨z, hz, hlt⟩ := hw.exists_kept p hpruned
      exact ⟨z, hz, hlt.le⟩
    · exact ⟨y, (hmem y).mpr ⟨hy, hpruned⟩, le_rfl⟩
  refine ⟨hw.receivedPacket p, fun x => ?_, fun x hx => ?_⟩
  · simp only [step, hdeleted, hmem x, h.mem_iff x, Set.mem_union, Set.mem_sdiff,
      Set.mem_singleton_iff]
    grind
  · simp only [step, hdeleted]
    obtain hx | rfl := hx
    · obtain hold | ⟨y, hy, hxy⟩ := h.highest x hx
      · exact .inl hold
      · obtain ⟨z, hz, hyz⟩ := hkept y (.inr hy)
        exact .inr ⟨z, hz, hxy.trans hyz⟩
    · by_cases hold : x < l.history.deletedBelow
      · exact .inl hold
      · exact .inr (hkept x (.inl ⟨rfl, not_lt.mp hold⟩))

theorem Exact.deleteBelow (h : Exact l) (p : PacketNumber) : Exact (l.step (.deleteBelow p)) := by
  obtain ⟨hw, hdeleted, hmem⟩ := h.wellFormed.deleteBelow p
  have hle : l.history.deletedBelow ≤ (l.history.deleteBelow p).deletedBelow := by
    rw [hdeleted]
    exact le_max_right _ _
  refine ⟨hw, fun x => ?_, fun x hx => ?_⟩
  · simp only [step, hmem x, h.mem_iff x]
    grind
  · simp only [step]
    obtain hold | ⟨y, hy, hxy⟩ := h.highest x hx
    · exact .inl (hold.trans_le hle)
    · by_cases hlt : y < (l.history.deleteBelow p).deletedBelow
      · exact .inl (hxy.trans_lt hlt)
      · exact .inr ⟨y, (hmem y).mpr ⟨not_lt.mp hlt, hy⟩, hxy⟩

theorem Exact.step (h : Exact l) (op : Op) : Exact (l.step op) := by
  cases op with
  | receivedPacket p => exact h.receivedPacket p
  | deleteBelow p => exact h.deleteBelow p

theorem exact_new : Exact {} where
  wellFormed := ⟨⟨by simp, .nil⟩, Nat.zero_le _, by simp, le_rfl⟩
  mem_iff x := by simp
  highest x hx := absurd hx (Set.notMem_empty x)

/-- The largest packet that was received is remembered if any is. -/
theorem Exact.isGreatest (h : Exact l) {m : Int} (hm : IsGreatest l.received m)
    (hne : l.history.ranges ≠ []) : IsGreatest (elements l.history.ranges) m := by
  have hle : ∀ x ∈ elements l.history.ranges, x ≤ m := fun x hx => hm.2 ((h.mem_iff x).mp hx).1
  refine ⟨?_, hle⟩
  obtain ⟨r, hr⟩ := List.exists_mem_of_ne_nil _ hne
  have hstart : r.start ∈ elements l.history.ranges :=
    ⟨r, hr, le_rfl, h.wellFormed.ascending.nonempty r hr⟩
  obtain hold | ⟨y, hy, hmy⟩ := h.highest m hm.1
  · have hdeleted := h.wellFormed.deletedBelow_le _ hstart
    exact absurd (hle _ hstart) (not_le.mpr (hold.trans_le hdeleted))
  · exact le_antisymm hmy (hle y hy) ▸ hy

/-- Packets that arrive out of order, with a limit in the middle of a range. -/
def reorderedPackets : List Op :=
  [.receivedPacket 4, .receivedPacket 10, .receivedPacket 7, .receivedPacket 6, .receivedPacket 5,
    .deleteBelow 6]

end Run

end MoqQuic.Quic.ReceivedPacketHistory
