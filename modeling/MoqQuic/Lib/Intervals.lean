import Mathlib.Data.List.Pairwise
import Mathlib.Order.MinMax

/-!
# MoqQuic.Lib.Intervals

Sorted lists of half-open intervals, over an arbitrary linear order.

`Separated` is the canonical form: the intervals are not empty, in order, and no two of
them touch.  `cut` takes a range out of every interval of the list; it keeps the form
and takes the range out of the set that the list stands for.  A program that edits such
a list in place edits a few intervals around the range: `cut_before`, `cut_inside` and
`cut_after` say what is left of the others.
-/

/-- The half-open interval from `start` to `stop`. -/
structure HalfOpen (α : Type*) where
  start : α
  stop : α
  deriving DecidableEq, Repr

namespace HalfOpen

variable {α : Type*} [LinearOrder α]

/-- The interval if it is not empty. -/
def proper (start stop : α) : List (HalfOpen α) := if start < stop then [⟨start, stop⟩] else []

/-- What a range leaves of an interval. -/
def remains (a b : α) (g : HalfOpen α) : List (HalfOpen α) :=
  proper g.start (min g.stop a) ++ proper (max g.start b) g.stop

/-- Take the range from `a` to `b` out of every interval. -/
def cut (a b : α) (gs : List (HalfOpen α)) : List (HalfOpen α) := gs.flatMap (remains a b)

/-- The elements of the intervals. -/
def union (gs : List (HalfOpen α)) : Set α := {x | ∃ g ∈ gs, g.start ≤ x ∧ x < g.stop}

/-- The canonical form. -/
structure Separated (gs : List (HalfOpen α)) : Prop where
  nonempty : ∀ g ∈ gs, g.start < g.stop
  apart : gs.Pairwise fun g g' => g.stop < g'.start

/-! ## elements -/

variable {gs : List (HalfOpen α)} {a b : α} {g g' : HalfOpen α} {start stop : α}

theorem mem_proper {g : HalfOpen α} : g ∈ proper start stop ↔ start < stop ∧ g = ⟨start, stop⟩ := by
  unfold proper
  split <;> simp_all

@[simp] theorem proper_of_lt (h : start < stop) : proper start stop = [⟨start, stop⟩] := if_pos h

@[simp] theorem proper_of_le (h : stop ≤ start) : proper start stop = [] :=
  if_neg h.not_gt

@[simp] theorem cut_cons (a b : α) (g : HalfOpen α) (gs : List (HalfOpen α)) :
    cut a b (g :: gs) = remains a b g ++ cut a b gs := rfl

@[simp] theorem cut_nil (a b : α) : cut a b [] = [] := rfl

@[simp] theorem cut_append (a b : α) (gs gs' : List (HalfOpen α)) :
    cut a b (gs ++ gs') = cut a b gs ++ cut a b gs' := List.flatMap_append

theorem mem_remains :
    g' ∈ remains a b g ↔ (g.start < min g.stop a ∧ g' = ⟨g.start, min g.stop a⟩) ∨
      (max g.start b < g.stop ∧ g' = ⟨max g.start b, g.stop⟩) := by
  rw [remains, List.mem_append, mem_proper, mem_proper]

/-- **Cutting** takes exactly the range out. -/
theorem mem_union_cut {a b x : α} : x ∈ union (cut a b gs) ↔ x ∈ union gs ∧ ¬ (a ≤ x ∧ x < b) := by
  constructor
  · rintro ⟨g', hg', hstart, hstop⟩
    obtain ⟨g, hg, hg'⟩ := List.mem_flatMap.mp hg'
    obtain ⟨-, rfl⟩ | ⟨-, rfl⟩ := mem_remains.mp hg'
    · simp only [lt_min_iff] at hstop
      exact ⟨⟨g, hg, hstart, hstop.1⟩, fun h => h.1.not_gt hstop.2⟩
    · simp only [max_le_iff] at hstart
      exact ⟨⟨g, hg, hstart.1, hstop⟩, fun h => h.2.not_ge hstart.2⟩
  · rintro ⟨⟨g, hg, hstart, hstop⟩, hout⟩
    by_cases hx : x < a
    · have hlt : x < min g.stop a := lt_min hstop hx
      exact ⟨_, List.mem_flatMap.mpr ⟨g, hg, mem_remains.mpr (.inl ⟨hstart.trans_lt hlt, rfl⟩)⟩,
        hstart, hlt⟩
    · have hb : b ≤ x := not_lt.mp fun hlt => hout ⟨not_lt.mp hx, hlt⟩
      have hle : max g.start b ≤ x := max_le hstart hb
      exact ⟨_, List.mem_flatMap.mpr ⟨g, hg, mem_remains.mpr (.inr ⟨hle.trans_lt hstop, rfl⟩)⟩,
        hle, hstop⟩

/-! ## the canonical form -/

theorem Separated.tail {g : HalfOpen α} (h : Separated (g :: gs)) : Separated gs :=
  ⟨fun g' hg' => h.nonempty g' (List.mem_cons_of_mem _ hg'), (List.pairwise_cons.mp h.apart).2⟩

/-- Two intervals of the list are the same, or one stops before the other starts. -/
theorem Separated.cases (h : Separated gs) (hg : g ∈ gs) (hg' : g' ∈ gs) :
    g = g' ∨ g.stop < g'.start ∨ g'.stop < g.start := by
  induction gs with
  | nil => simp at hg
  | cons d gs ih =>
    have hhead := (List.pairwise_cons.mp h.apart).1
    rcases List.mem_cons.mp hg with rfl | hin <;> rcases List.mem_cons.mp hg' with rfl | hin'
    · exact .inl rfl
    · exact .inr (.inl (hhead g' hin'))
    · exact .inr (.inr (hhead g hin))
    · exact ih h.tail hin hin'

/-- No two intervals of the list start at the same place. -/
theorem Separated.nodup_starts (h : Separated gs) : (gs.map fun g => g.start).Nodup := by
  refine List.pairwise_map.mpr (h.apart.imp_of_mem fun hg _ hlt => ?_)
  exact ((h.nonempty _ hg).trans hlt).ne

/-- What is left of an interval lies inside it. -/
theorem start_le_of_mem_remains (h : g' ∈ remains a b g) : g.start ≤ g'.start := by
  obtain ⟨-, rfl⟩ | ⟨-, rfl⟩ := mem_remains.mp h
  · exact le_rfl
  · exact le_max_left _ _

theorem stop_le_of_mem_remains (h : g' ∈ remains a b g) : g'.stop ≤ g.stop := by
  obtain ⟨-, rfl⟩ | ⟨-, rfl⟩ := mem_remains.mp h
  · exact min_le_left _ _
  · exact le_rfl

theorem separated_remains (hab : a < b) (g : HalfOpen α) : Separated (remains a b g) where
  nonempty := by
    intro g' hg'
    obtain ⟨hlt, rfl⟩ | ⟨hlt, rfl⟩ := mem_remains.mp hg' <;> exact hlt
  apart := by
    refine List.pairwise_append.mpr ⟨?_, ?_, ?_⟩
    · unfold proper
      split <;> simp
    · unfold proper
      split <;> simp
    · intro g₁ h₁ g₂ h₂
      obtain ⟨-, rfl⟩ := mem_proper.mp h₁
      obtain ⟨-, rfl⟩ := mem_proper.mp h₂
      exact (min_le_right _ _).trans_lt (hab.trans_le (le_max_right _ _))

/-- **Cutting** keeps the canonical form. -/
theorem separated_cut (hab : a < b) (h : Separated gs) : Separated (cut a b gs) := by
  induction gs with
  | nil => exact ⟨by simp, by simp⟩
  | cons g gs ih =>
    have hrest := ih h.tail
    have hhead := separated_remains hab g
    constructor
    · intro g' hg'
      cases List.mem_append.mp hg' with
      | inl hin => exact hhead.nonempty g' hin
      | inr hin => exact hrest.nonempty g' hin
    · refine List.pairwise_append.mpr ⟨hhead.apart, hrest.apart, ?_⟩
      intro g₁ h₁ g₂ h₂
      obtain ⟨g', hg', h₂⟩ := List.mem_flatMap.mp h₂
      calc
        g₁.stop ≤ g.stop := stop_le_of_mem_remains h₁
        _ < g'.start := (List.pairwise_cons.mp h.apart).1 g' hg'
        _ ≤ g₂.start := start_le_of_mem_remains h₂

/-! ## intervals beside the range -/

/-- Intervals that stop before the range are left as they are. -/
theorem cut_before (hab : a ≤ b) (hne : ∀ g ∈ gs, g.start < g.stop) (h : ∀ g ∈ gs, g.stop ≤ a) :
    cut a b gs = gs := by
  induction gs with
  | nil => rfl
  | cons g gs ih =>
    obtain ⟨hg, hgs⟩ := List.forall_mem_cons.mp h
    obtain ⟨hlt, hne⟩ := List.forall_mem_cons.mp hne
    have hright : g.stop ≤ max g.start b := (hg.trans hab).trans (le_max_right _ _)
    rw [cut_cons, ih hne hgs, remains, min_eq_left hg, proper_of_lt hlt, proper_of_le hright]
    rfl

/-- Intervals that start after the range are left as they are. -/
theorem cut_after (hab : a ≤ b) (hne : ∀ g ∈ gs, g.start < g.stop) (h : ∀ g ∈ gs, b ≤ g.start) :
    cut a b gs = gs := by
  induction gs with
  | nil => rfl
  | cons g gs ih =>
    obtain ⟨hg, hgs⟩ := List.forall_mem_cons.mp h
    obtain ⟨hlt, hne⟩ := List.forall_mem_cons.mp hne
    have hleft : min g.stop a ≤ g.start := (min_le_right _ _).trans (hab.trans hg)
    rw [cut_cons, ih hne hgs, remains, max_eq_left hg, proper_of_lt hlt, proper_of_le hleft]
    rfl

/-- Nothing is left of intervals inside the range. -/
theorem cut_inside (h : ∀ g ∈ gs, a ≤ g.start ∧ g.stop ≤ b) : cut a b gs = [] := by
  refine List.flatMap_eq_nil_iff.mpr fun g hg => ?_
  obtain ⟨hstart, hstop⟩ := h g hg
  rw [remains, proper_of_le ((min_le_right _ _).trans hstart),
    proper_of_le (hstop.trans (le_max_right _ _)), List.append_nil]

end HalfOpen
