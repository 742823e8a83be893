import Mathlib.Data.List.Pairwise
import Mathlib.Data.Set.Basic

/-!
# MoqQuic.Lib.ClosedRanges

Sorted lists of closed ranges of integers.

`Ascending` and `Descending` are the canonical forms of a set: the ranges are not empty, in order,
and between any two of them an integer is missing. `elements` is the set that a list stands for. The
rules for `::` speak of the elements of the rest of the list only, so a walk over a list never has to
look at two ranges at a time.
-/

/-- The integers from `start` to `stop`, both included. -/
structure ClosedRange where
  start : Int
  stop : Int
  deriving DecidableEq, Repr

namespace ClosedRange

variable {r : ClosedRange} {rs rs' : List ClosedRange} {x p : Int}

def elements (rs : List ClosedRange) : Set Int := {x | ∃ r ∈ rs, r.start ≤ x ∧ x ≤ r.stop}

structure Descending (rs : List ClosedRange) : Prop where
  nonempty : ∀ r ∈ rs, r.start ≤ r.stop
  apart : rs.Pairwise fun r r' => r'.stop + 1 < r.start

structure Ascending (rs : List ClosedRange) : Prop where
  nonempty : ∀ r ∈ rs, r.start ≤ r.stop
  apart : rs.Pairwise fun r r' => r.stop + 1 < r'.start

theorem descending_reverse : Descending rs.reverse ↔ Ascending rs := by
  constructor
  · intro h
    exact ⟨fun r hr => h.nonempty r (List.mem_reverse.mpr hr), List.pairwise_reverse.mp h.apart⟩
  · intro h
    exact ⟨fun r hr => h.nonempty r (List.mem_reverse.mp hr), List.pairwise_reverse.mpr h.apart⟩

/-! ## elements -/

theorem mem_elements : x ∈ elements rs ↔ ∃ r ∈ rs, r.start ≤ x ∧ x ≤ r.stop := Iff.rfl

@[simp] theorem notMem_elements_nil : x ∉ elements [] := by
  simp [mem_elements]

@[simp] theorem mem_elements_cons :
    x ∈ elements (r :: rs) ↔ r.start ≤ x ∧ x ≤ r.stop ∨ x ∈ elements rs := by
  simp [mem_elements]

@[simp] theorem mem_elements_append :
    x ∈ elements (rs ++ rs') ↔ x ∈ elements rs ∨ x ∈ elements rs' := by
  simp only [mem_elements, List.mem_append, or_and_right, exists_or]

@[simp] theorem elements_reverse (rs : List ClosedRange) : elements rs.reverse = elements rs := by
  ext x
  simp [mem_elements]

/-! ## the canonical forms -/

theorem descending_nil : Descending [] := ⟨by simp, .nil⟩

/-- The first range lies above all elements of the others. -/
theorem descending_cons : Descending (r :: rs) ↔
    r.start ≤ r.stop ∧ (∀ x ∈ elements rs, x + 1 < r.start) ∧ Descending rs := by
  constructor
  · intro h
    obtain ⟨habove, hrest⟩ := List.pairwise_cons.mp h.apart
    refine ⟨h.nonempty r List.mem_cons_self, ?_, fun r' hr' =>
      h.nonempty r' (List.mem_cons_of_mem r hr'), hrest⟩
    rintro x ⟨r', hr', -, hx⟩
    have hlt := habove r' hr'
    omega
  · rintro ⟨hr, habove, hrest⟩
    refine ⟨List.forall_mem_cons.mpr ⟨hr, hrest.nonempty⟩,
      List.pairwise_cons.mpr ⟨fun r' hr' => ?_, hrest.apart⟩⟩
    exact habove r'.stop ⟨r', hr', hrest.nonempty r' hr', le_rfl⟩

/-- The first range lies below all elements of the others. -/
theorem ascending_cons : Ascending (r :: rs) ↔
    r.start ≤ r.stop ∧ (∀ x ∈ elements rs, r.stop + 1 < x) ∧ Ascending rs := by
  constructor
  · intro h
    obtain ⟨hbelow, hrest⟩ := List.pairwise_cons.mp h.apart
    refine ⟨h.nonempty r List.mem_cons_self, ?_, fun r' hr' =>
      h.nonempty r' (List.mem_cons_of_mem r hr'), hrest⟩
    rintro x ⟨r', hr', hx, -⟩
    have hlt := hbelow r' hr'
    omega
  · rintro ⟨hr, hbelow, hrest⟩
    refine ⟨List.forall_mem_cons.mpr ⟨hr, hrest.nonempty⟩,
      List.pairwise_cons.mpr ⟨fun r' hr' => ?_, hrest.apart⟩⟩
    exact hbelow r'.start ⟨r', hr', le_rfl, hrest.nonempty r' hr'⟩

/-- The integer before a range is missing. -/
theorem Descending.pred_notMem (h : Descending rs) (hr : r ∈ rs) : r.start - 1 ∉ elements rs := by
  induction rs with
  | nil => cases hr
  | cons r' rs ih =>
    obtain ⟨hr', habove, hrest⟩ := descending_cons.mp h
    rw [mem_elements_cons, not_or]
    obtain rfl | hr := List.mem_cons.mp hr
    · refine ⟨by omega, fun hin => ?_⟩
      have hlt := habove _ hin
      omega
    · refine ⟨fun hin => ?_, ih hrest hr⟩
      have hlt := habove r.start ⟨r, hr, le_rfl, hrest.nonempty r hr⟩
      omega

/-- No element lies above the first range. -/
theorem Descending.le_head (h : Descending (r :: rs)) (hx : x ∈ elements (r :: rs)) :
    x ≤ r.stop := by
  obtain ⟨hr, habove, -⟩ := descending_cons.mp h
  obtain hx | hx := mem_elements_cons.mp hx
  · exact hx.2
  · have hlt := habove x hx
    omega

theorem Ascending.drop (h : Ascending rs) (n : Nat) : Ascending (rs.drop n) :=
  ⟨fun r hr => h.nonempty r (List.mem_of_mem_drop hr), h.apart.sublist (List.drop_sublist n rs)⟩

/-- What is in the first ranges lies below what is in the others. -/
theorem Ascending.take_lt_drop (h : Ascending rs) (n : Nat) {y : Int}
    (hx : x ∈ elements (rs.take n)) (hy : y ∈ elements (rs.drop n)) : x < y := by
  obtain ⟨r, hr, -, hxr⟩ := hx
  obtain ⟨r', hr', hyr, -⟩ := hy
  have happart := h.apart
  rw [← List.take_append_drop n rs] at happart
  have hlt := (List.pairwise_append.mp happart).2.2 r hr r' hr'
  omega

end ClosedRange
