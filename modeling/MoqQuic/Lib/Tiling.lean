import Mathlib.Data.Set.Basic

/-!
# MoqQuic.Lib.Tiling

Maps from positions to blocks that tile a set of natural numbers, over an arbitrary
type of blocks with a length.

A map with a block `b` at `p` stands for the numbers from `p` to `p + len b`.  A map
*tiles* `U` when no two of its blocks overlap and the blocks make up exactly `U`.  A
program that walks from block to block, `p` to `p + len b`, stays inside `U` until the
first number outside it (`Tiles.next`).  The rule to store a block where others have
been cleared away is `Tiles.store`.
-/

namespace Tiling

variable {β : Type*} {len : β → Nat} {q q' : Nat → Option β} {U : Set Nat}

/-- The blocks of `q` are disjoint, not empty, and make up `U`. -/
structure Tiles (len : β → Nat) (q : Nat → Option β) (U : Set Nat) : Prop where
  pos : ∀ {p b}, q p = some b → 0 < len b
  apart : ∀ {p b p' b'}, q p = some b → q p' = some b' → p < p' → p + len b ≤ p'
  mem_iff : ∀ {x}, x ∈ U ↔ ∃ p b, q p = some b ∧ p ≤ x ∧ x < p + len b

/-- No block of `q` has `x` in its inside. -/
def Boundary (len : β → Nat) (q : Nat → Option β) (x : Nat) : Prop :=
  ∀ p b, q p = some b → p < x → p + len b ≤ x

/-- `q'` is `q` without the blocks that start in the range from `a` to `c`. -/
def Cleared (q q' : Nat → Option β) (a c : Nat) : Prop :=
  ∀ p, q' p = if a ≤ p ∧ p < c then none else q p

/-- Nothing is cleared from an empty range. -/
theorem cleared_refl (q : Nat → Option β) (a : Nat) : Cleared q q a a := by
  intro p
  rw [if_neg (by omega)]

/-- **Clearing on**: ranges with no block between them are cleared as one. -/
theorem Cleared.trans {q'' : Nat → Option β} {a c d e : Nat} (h : Cleared q q' a c)
    (h' : Cleared q' q'' d e) (hac : a ≤ c) (hcd : c ≤ d) (hde : d ≤ e)
    (hnone : ∀ p, c ≤ p → p < d → q p = none) : Cleared q q'' a e := by
  intro p
  rw [h' p, h p]
  by_cases hin : a ≤ p ∧ p < e
  · rw [if_pos hin]
    by_cases hmid : c ≤ p ∧ p < d
    · rw [hnone p hmid.1 hmid.2]
      simp
    · split
      · rfl
      · rw [if_pos (by omega)]
  · rw [if_neg hin, if_neg (by omega), if_neg (by omega)]

theorem Cleared.of_some {a c p : Nat} {b : β} (h : Cleared q q' a c) (hb : q' p = some b) :
    q p = some b ∧ ¬ (a ≤ p ∧ p < c) := by
  rw [h p] at hb
  split at hb
  · cases hb
  · next hout => exact ⟨hb, hout⟩

namespace Tiles

variable {b : β} {p : Nat}

section

variable (h : Tiles len q U)
include h

theorem mem {p x : Nat} (hb : q p = some b) (hle : p ≤ x) (hlt : x < p + len b) : x ∈ U :=
  h.mem_iff.mpr ⟨p, b, hb, hle, hlt⟩

/-- The start of a block is in the set. -/
theorem start_mem (hb : q p = some b) : p ∈ U :=
  h.mem hb le_rfl (Nat.lt_add_of_pos_right (h.pos hb))

/-! ## boundaries -/

variable {x : Nat}

theorem boundary_of_notMem (hx : x ∉ U) : Boundary len q x := by
  intro p b hb hlt
  by_contra hle
  exact hx (h.mem hb hlt.le (not_le.mp hle))

theorem boundary_of_pred (hx : x ∉ U) : Boundary len q (x + 1) := by
  intro p b hb hlt
  by_contra hle
  exact hx (h.mem hb (Nat.le_of_lt_succ hlt) (by omega))

theorem boundary_of_start (hx : q x = some b) :
    Boundary len q x := fun _ _ hb hlt => h.apart hb hx hlt

theorem boundary_of_stop (hb : q p = some b) : Boundary len q (p + len b) := by
  intro p' b' hb' hlt
  have hpos := h.pos hb
  rcases Nat.lt_trichotomy p p' with hp | rfl | hp
  · have hle := h.apart hb hb' hp
    omega
  · rw [hb] at hb'
    rw [Option.some.inj hb']
  · have hle := h.apart hb' hb hp
    omega

/-- A number of the set that is a boundary starts a block. -/
theorem starts (hx : x ∈ U) (hbd : Boundary len q x) : ∃ b, q x = some b := by
  obtain ⟨p, b, hb, hle, hlt⟩ := h.mem_iff.mp hx
  rcases hle.eq_or_lt with rfl | hp
  · exact ⟨b, hb⟩
  · have hstop := hbd p b hb hp
    omega

/-! ## clearing -/

/-- A block is cleared away by its start alone. -/
theorem cleared_block (hb : q p = some b)
    (hq' : ∀ x, q' x = if x = p then none else q x) : Cleared q q' p (p + len b) := by
  intro x
  rw [hq' x]
  by_cases hx : x = p
  · have hpos := h.pos hb
    rw [if_pos hx, if_pos (by omega)]
  · rw [if_neg hx]
    split
    · next hin =>
      -- no block starts inside another one
      cases hbx : q x with
      | none => rfl
      | some b' =>
        have hle := h.apart hb hbx (by omega)
        omega
    · rfl

/-- A cleared map tiles what is left. -/
theorem clear {a c : Nat} (hclear : Cleared q q' a c)
    (ha : Boundary len q a) (hc : Boundary len q c) :
    Tiles len q' {x | x ∈ U ∧ ¬ (a ≤ x ∧ x < c)} := by
  constructor
  · intro p b hb
    exact h.pos (hclear.of_some hb).1
  · intro p b p' b' hb hb'
    exact h.apart (hclear.of_some hb).1 (hclear.of_some hb').1
  · intro x
    constructor
    · rintro ⟨hx, hout⟩
      obtain ⟨p, b, hb, hle, hlt⟩ := h.mem_iff.mp hx
      have hkept : ¬ (a ≤ p ∧ p < c) := by
        intro hp
        have hstop : p + len b ≤ c := hc p b hb hp.2
        omega
      exact ⟨p, b, by rw [hclear p, if_neg hkept, hb], hle, hlt⟩
    · rintro ⟨p, b, hb, hle, hlt⟩
      obtain ⟨hb, hout⟩ := hclear.of_some hb
      refine ⟨h.mem hb hle hlt, fun hx => hout ⟨?_, by omega⟩⟩
      by_contra hpa
      have hstop : p + len b ≤ a := ha p b hb (not_le.mp hpa)
      omega

/-! ## storing and taking out -/

/-- **Storing**: a block may take the place of those that start in its range when none
crosses its ends. -/
theorem store {a : Nat} (hpos : 0 < len b)
    (hclear : Cleared q q' a (a + len b)) (ha : Boundary len q a)
    (hc : Boundary len q (a + len b)) :
    Tiles len (Function.update q' a (some b)) (U ∪ {x | a ≤ x ∧ x < a + len b}) := by
  -- a block of the new map is the new one, or an old one on either side of it
  have hcases : ∀ {p b'}, Function.update q' a (some b) p = some b' →
      (p = a ∧ b' = b) ∨ (q p = some b' ∧ (p + len b' ≤ a ∨ a + len b ≤ p)) := by
    intro p b' hb'
    by_cases hp : p = a
    · rw [hp, Function.update_self] at hb'
      exact .inl ⟨hp, (Option.some.inj hb').symm⟩
    · rw [Function.update_of_ne hp] at hb'
      obtain ⟨hb', hout⟩ := hclear.of_some hb'
      refine .inr ⟨hb', ?_⟩
      by_cases hlt : p < a
      · exact .inl (ha p b' hb' hlt)
      · exact .inr (by omega)
  constructor
  · intro p b' hb'
    obtain ⟨-, rfl⟩ | ⟨hold, -⟩ := hcases hb'
    · exact hpos
    · exact h.pos hold
  · intro p b₁ p' b₂ h₁ h₂ hlt
    obtain ⟨rfl, rfl⟩ | ⟨hold₁, hside₁⟩ := hcases h₁
    · obtain ⟨rfl, rfl⟩ | ⟨hold₂, hside₂⟩ := hcases h₂
      · omega
      · have := h.pos hold₂
        omega
    · obtain ⟨rfl, rfl⟩ | ⟨hold₂, -⟩ := hcases h₂
      · omega
      · exact h.apart hold₁ hold₂ hlt
  · intro x
    constructor
    · intro hx
      by_cases hin : a ≤ x ∧ x < a + len b
      · exact ⟨a, b, Function.update_self .., hin⟩
      · -- an old block outside the range is still there
        obtain ⟨p, b', hb', hle, hlt⟩ := h.mem_iff.mp (hx.resolve_right hin)
        have hkept : ¬ (a ≤ p ∧ p < a + len b) := by
          intro hp
          have hstop : p + len b' ≤ a + len b := hc p b' hb' hp.2
          omega
        have hne : p ≠ a := by omega
        refine ⟨p, b', ?_, hle, hlt⟩
        rw [Function.update_of_ne hne, hclear p, if_neg hkept]
        exact hb'
    · rintro ⟨p, b', hb', hle, hlt⟩
      obtain ⟨rfl, rfl⟩ | ⟨hold, -⟩ := hcases hb'
      · exact .inr ⟨hle, hlt⟩
      · exact .inl (h.mem hold hle hlt)

/-- **Taking out** the first block. -/
theorem takeFirst {r : Nat} (hb : q r = some b) (hfirst : ∀ x ∈ U, r ≤ x)
    (hq' : ∀ p, q' p = if p = r then none else q p) :
    Tiles len q' {x | x ∈ U ∧ r + len b ≤ x} := by
  have hset : {x | x ∈ U ∧ r + len b ≤ x} = {x | x ∈ U ∧ ¬ (r ≤ x ∧ x < r + len b)} := by
    ext x
    refine and_congr_right fun hx => ?_
    have hle := hfirst x hx
    omega
  rw [hset]
  exact h.clear (h.cleared_block hb hq') (h.boundary_of_start hb) (h.boundary_of_stop hb)

end

end Tiles

end Tiling
