import MoqQuic.Lib.Tiling
import MoqQuic.Quic.FrameSorter

/-!
# MoqQuic.Quic.FrameSorter.Clear

The loops of the frame sorter that delete queued frames.

Both walk from a frame to the one that starts where it stops.  In a queue that tiles the
unread data they stop at its end, or, for the frames that a new one replaces, at the
first frame that sticks out of it; what they delete is exactly what starts in the range
they walked over.
-/

namespace MoqQuic.Quic

open Tiling

variable {κ : Type}

/-- The length of a queued frame. -/
abbrev entryLen (e : FrameSorterEntry κ) : Nat := e.data.length

namespace FrameSorter

/-- The queue of a clearing as a map. -/
abbrev Clearing.at (c : Clearing κ) (p : Nat) : Option (FrameSorterEntry κ) := c.queue.lookup p

variable {c : Clearing κ} {U : Set Nat} {pos : Nat} {entry : FrameSorterEntry κ}

/-! ## deleting one frame -/

theorem lookup_erase (queue : FrameSorterQueue κ) (pos p : Nat) :
    (queue.erase pos).lookup p = if p = pos then none else queue.lookup p := by
  by_cases hp : p = pos
  · rw [if_pos hp, hp, AList.lookup_erase]
  · rw [if_neg hp, AList.lookup_erase_ne hp]

theorem length_keys_erase {queue : FrameSorterQueue κ} (h : queue.lookup pos = some entry) :
    (queue.erase pos).keys.length + 1 = queue.keys.length := by
  have hmem : pos ∈ queue.keys := AList.mem_keys.mp (AList.lookup_isSome.mp (by simp [h]))
  have hlen := List.length_pos_of_mem hmem
  rw [AList.keys_erase, List.length_erase_of_mem hmem]
  omega

theorem Clearing.at_delete (c : Clearing κ) (pos : Nat) (entry : FrameSorterEntry κ) (p : Nat) :
    (c.delete pos entry).at p = if p = pos then none else c.at p :=
  lookup_erase c.queue pos p

theorem Clearing.keys_delete (c : Clearing κ) (entry' : FrameSorterEntry κ)
    (h : c.at pos = some entry) {rounds : Nat} (hrounds : c.queue.keys.length ≤ rounds + 1) :
    (c.delete pos entry').queue.keys.length ≤ rounds := by
  have hlen := length_keys_erase h
  simp only [Clearing.delete]
  omega

theorem Clearing.at_eq_none (h : c.queue.keys.length ≤ 0) (p : Nat) : c.at p = none := by
  have hnil : c.queue.keys = [] := List.eq_nil_of_length_eq_zero (Nat.le_zero.mp h)
  refine AList.lookup_eq_none.mpr fun hmem => ?_
  rw [AList.mem_keys, hnil] at hmem
  simp at hmem

theorem cleared_delete (h : Tiles entryLen c.at U) (hentry : c.at pos = some entry) :
    Cleared c.at (c.delete pos entry).at pos (pos + entryLen entry) :=
  h.cleared_block hentry (c.at_delete pos entry)

/-- The queue without a frame tiles the rest. -/
theorem tiles_delete (h : Tiles entryLen c.at U) (hentry : c.at pos = some entry) :
    Tiles entryLen (c.delete pos entry).at
      {x | x ∈ U ∧ ¬ (pos ≤ x ∧ x < pos + entryLen entry)} :=
  h.clear (cleared_delete h hentry) (h.boundary_of_start hentry) (h.boundary_of_stop hentry)

theorem boundary_delete (hentry : c.at pos = some entry) {x : Nat} (hx : pos + entryLen entry ≤ x) :
    Boundary entryLen (c.delete pos entry).at x ↔ Boundary entryLen c.at x := by
  constructor
  · intro hbd p b hb hlt
    by_cases hp : p = pos
    · rw [hp, hentry] at hb
      rw [hp, ← Option.some.inj hb]
      exact hx
    · exact hbd p b (by rw [c.at_delete, if_neg hp, hb]) hlt
  · intro hbd p b hb hlt
    rw [c.at_delete] at hb
    split at hb
    · simp at hb
    · exact hbd p b hb hlt

/-! ## the walk -/

/-- The frames that start between `pos` and `stop` follow one another, and `q` is what is
left of the queue without them. -/
structure Walked (c c' : Clearing κ) (U : Set Nat) (pos stop : Nat) : Prop where
  le : pos ≤ stop
  cleared : Cleared c.at c'.at pos stop
  covered : ∀ x, pos ≤ x → x < stop → x ∈ U
  boundary : Boundary entryLen c.at pos → Boundary entryLen c.at stop

theorem Walked.refl (c : Clearing κ) (U : Set Nat) (pos : Nat) : Walked c c U pos pos where
  le := le_rfl
  cleared := cleared_refl _ _
  covered := by omega
  boundary := id

/-- A walk goes on from the end of a frame. -/
theorem Walked.cons {c' : Clearing κ} {stop : Nat} (h : Tiles entryLen c.at U)
    (hentry : c.at pos = some entry)
    (hw : Walked (c.delete pos entry) c' {x | x ∈ U ∧ ¬ (pos ≤ x ∧ x < pos + entryLen entry)}
      (pos + entryLen entry) stop) : Walked c c' U pos stop where
  le := le_trans (Nat.le_add_right _ _) hw.le
  cleared := (cleared_delete h hentry).trans hw.cleared (Nat.le_add_right _ _) le_rfl hw.le
    (by omega)
  covered := by
    intro x hle hlt
    by_cases hin : x < pos + entryLen entry
    · exact h.mem hentry hle hin
    · exact (hw.covered x (not_lt.mp hin) hlt).1
  boundary := by
    intro _
    have hstart : Boundary entryLen (c.delete pos entry).at (pos + entryLen entry) :=
      (boundary_delete hentry le_rfl).mpr (h.boundary_of_stop hentry)
    exact (boundary_delete hentry hw.le).mp (hw.boundary hstart)

theorem at_delete_of_le (h : Tiles entryLen c.at U) (hentry : c.at pos = some entry) {x : Nat}
    (hx : pos + entryLen entry ≤ x) : (c.delete pos entry).at x = c.at x := by
  have hpos := h.pos hentry
  rw [c.at_delete, if_neg (by omega)]

/-! ## deleting consecutive frames -/

theorem walked_deleteRounds : ∀ (rounds : Nat) {c : Clearing κ} {U : Set Nat} (pos : Nat),
    Tiles entryLen c.at U → c.queue.keys.length ≤ rounds →
      ∃ stop, Walked c (deleteRounds rounds c pos) U pos stop ∧ c.at stop = none
  | 0, c, U, pos, _, hrounds => ⟨pos, .refl c U pos, Clearing.at_eq_none hrounds pos⟩
  | rounds + 1, c, U, pos, h, hrounds => by
    rw [deleteRounds]
    cases hentry : c.queue.lookup pos with
    | none => exact ⟨pos, .refl c U pos, hentry⟩
    | some entry =>
      obtain ⟨stop, hw, hnone⟩ := walked_deleteRounds rounds (pos + entryLen entry)
        (tiles_delete h hentry) (c.keys_delete entry hentry hrounds)
      refine ⟨stop, .cons h hentry hw, ?_⟩
      rw [← at_delete_of_le h hentry hw.le]
      exact hnone

/-- **`deleteConsecutive`** walks over the frames from `pos` until none follows. -/
theorem walked_deleteConsecutive (h : Tiles entryLen c.at U) (pos : Nat) :
    ∃ stop, Walked c (deleteConsecutive c pos) U pos stop ∧ c.at stop = none :=
  walked_deleteRounds _ pos h le_rfl

theorem deleteConsecutive_of_none (h : c.at pos = none) : deleteConsecutive c pos = c := by
  rw [deleteConsecutive]
  cases c.queue.keys.length with
  | zero => rfl
  | succ rounds =>
    rw [deleteRounds]
    simp only [Clearing.at] at h
    rw [h]

/-- From the start of a covered range, everything up to its end is deleted. -/
theorem cleared_deleteConsecutive {q : Nat → Option (FrameSorterEntry κ)} {a lo hi : Nat}
    (h : Tiles entryLen q U) (hclear : Cleared q c.at a lo) (ha : Boundary entryLen q a)
    (hlo : Boundary entryLen q lo) (halo : a ≤ lo) (hle : lo ≤ pos)
    (hgap : ∀ x, lo ≤ x → x < pos → x ∉ U) (hpos : Boundary entryLen q pos) (hposhi : pos ≤ hi)
    (hcovered : ∀ x, pos ≤ x → x < hi → x ∈ U) (hhi : hi ∉ U) :
    Cleared q (deleteConsecutive c pos).at a hi := by
  have hc : Tiles entryLen c.at {x | x ∈ U ∧ ¬ (a ≤ x ∧ x < lo)} := h.clear hclear ha hlo
  have hbd : Boundary entryLen c.at pos :=
    fun p b hb hlt => hpos p b (hclear.of_some hb).1 hlt
  obtain ⟨stop, hw, hnone⟩ := walked_deleteConsecutive hc pos
  have hstop : stop = hi := by
    rcases Nat.lt_trichotomy stop hi with hlt | heq | hgt
    · -- the covered range goes on, so a frame starts where the walk stopped
      have hin : stop ∈ {x | x ∈ U ∧ ¬ (a ≤ x ∧ x < lo)} :=
        ⟨hcovered stop hw.le hlt, by have := hw.le; omega⟩
      obtain ⟨b, hb⟩ := hc.starts hin (hw.boundary hbd)
      rw [hnone] at hb
      simp at hb
    · exact heq
    · exact absurd (hw.covered hi hposhi hgt).1 hhi
  refine hclear.trans (hstop ▸ hw.cleared) halo hle hposhi fun p hlop hlt => ?_
  cases hb : q p with
  | none => rfl
  | some b => exact absurd (h.start_mem hb) (hgap p hlop hlt)

/-! ## replacing the frames at the start -/

/-- Where the frames that a new one replaces end: no frame follows, or the next one sticks
out of the new one. -/
def ReplacedTo (c : Clearing κ) (stop : Nat) (r : Replacing κ) : Prop :=
  r.cut = false ∧ c.at r.pos = none ∨
    r.cut = true ∧ ∃ entry, c.at r.pos = some entry ∧ stop < r.pos + entryLen entry

theorem walked_replaceRounds {stop : Nat} : ∀ (rounds : Nat) {c : Clearing κ} {U : Set Nat}
    (pos : Nat), Tiles entryLen c.at U → c.queue.keys.length ≤ rounds → pos ≤ stop →
      ∃ r, replaceRounds stop rounds c pos true = some r ∧ r.hasReplacedAtLeastOne = true ∧
        r.pos ≤ stop ∧ Walked c r.clearing U pos r.pos ∧ ReplacedTo c stop r
  | 0, c, U, pos, _, hrounds, hle =>
    ⟨_, rfl, rfl, hle, .refl c U pos, .inl ⟨rfl, Clearing.at_eq_none hrounds pos⟩⟩
  | rounds + 1, c, U, pos, h, hrounds, hle => by
    rw [replaceRounds]
    cases hentry : c.queue.lookup pos with
    | none => exact ⟨_, rfl, rfl, hle, .refl c U pos, .inl ⟨rfl, hentry⟩⟩
    | some entry =>
      have hpos := h.pos hentry
      by_cases hfits : pos + entryLen entry ≤ stop
      · have hcond : stop - pos > entry.data.length ∨
            (true = true ∧ stop - pos = entry.data.length) := by
          simp only [entryLen, true_and] at hfits hpos ⊢
          omega
        obtain ⟨r, hr, hhas, hrle, hw, hto⟩ := walked_replaceRounds rounds _
          (tiles_delete h hentry) (c.keys_delete entry hentry hrounds) hfits
        rw [ReplacedTo, at_delete_of_le h hentry hw.le] at hto
        dsimp only
        rw [if_pos hcond]
        exact ⟨r, hr, hhas, hrle, .cons h hentry hw, hto⟩
      · have hcond : ¬ (stop - pos > entry.data.length ∨
            (true = true ∧ stop - pos = entry.data.length)) := by
          simp only [entryLen, true_and] at hfits hpos ⊢
          omega
        dsimp only
        rw [if_neg hcond, if_pos rfl]
        exact ⟨_, rfl, rfl, hle, .refl c U pos, .inr ⟨rfl, entry, hentry, not_le.mp hfits⟩⟩

/-- What the loop of `push` over the frames at its start can come to. -/
inductive ReplaceOutcome (c : Clearing κ) (U : Set Nat) (start stop : Nat) :
    Option (Replacing κ) → Prop
  | duplicate (hcovered : ∀ x, start ≤ x → x < stop → x ∈ U) : ReplaceOutcome c U start stop none
  | nothing (hnone : c.at start = none) :
      ReplaceOutcome c U start stop (some ⟨c, start, false, false⟩)
  | replaced {r : Replacing κ} (hhas : r.hasReplacedAtLeastOne = true)
      (hstart : ∃ entry, c.at start = some entry) (hlt : start < r.pos) (hle : r.pos ≤ stop)
      (hw : Walked c r.clearing U start r.pos) (hto : ReplacedTo c stop r) :
      ReplaceOutcome c U start stop (some r)

theorem replace_outcome (h : Tiles entryLen c.at U) (start stop : Nat) :
    ReplaceOutcome c U start stop (replace c start stop) := by
  rw [replace]
  cases hrounds : c.queue.keys.length with
  | zero => exact .nothing (Clearing.at_eq_none hrounds.le start)
  | succ rounds =>
    rw [replaceRounds]
    cases hentry : c.queue.lookup start with
    | none => exact .nothing hentry
    | some entry =>
      have hpos := h.pos hentry
      by_cases hfits : start + entryLen entry < stop
      · have hcond : stop - start > entry.data.length ∨
            (false = true ∧ stop - start = entry.data.length) := by
          simp only [entryLen] at hfits
          omega
        obtain ⟨r, hr, hhas, hrle, hw, hto⟩ := walked_replaceRounds rounds _
          (tiles_delete h hentry) (c.keys_delete entry hentry hrounds.le) hfits.le
        rw [ReplacedTo, at_delete_of_le h hentry hw.le] at hto
        have hlt : start < r.pos := by
          have hle := hw.le
          omega
        dsimp only
        rw [if_pos hcond, hr]
        exact .replaced hhas ⟨entry, hentry⟩ hlt hrle (.cons h hentry hw) hto
      · have hcond : ¬ (stop - start > entry.data.length ∨
            (false = true ∧ stop - start = entry.data.length)) := by
          simp only [entryLen] at hfits
          simp
          omega
        dsimp only
        rw [if_neg hcond, if_neg (by simp)]
        exact .duplicate fun x hle hlt => h.mem hentry hle (by omega)

end FrameSorter

end MoqQuic.Quic
