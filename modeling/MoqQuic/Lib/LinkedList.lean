import Mathlib.Data.List.Nodup

/-!
# MoqQuic.Lib.LinkedList

Doubly linked lists whose elements are held by reference, over an arbitrary type of
values.

A program walks such a list and keeps pointers to elements; a pointer stays good while
the list is edited around it.  Here an element is its value with an address, and an
operation names the element by the address.  The lemmas evaluate an operation on a list
written as what comes before the element, the element, and what comes after.
-/

/-- A linked list: its elements in order, each with its address. -/
structure LinkedList (α : Type*) where
  elems : List (Nat × α)
  /-- the next address to give out -/
  fresh : Nat
  nodup : (elems.map Prod.fst).Nodup
  lt_fresh : ∀ e ∈ elems, e.1 < fresh

namespace LinkedList

variable {α : Type*}

def values (l : LinkedList α) : List α := l.elems.map Prod.snd

def len (l : LinkedList α) : Nat := l.elems.length

def front (l : LinkedList α) : Option (Nat × α) := l.elems.head?

/-- The elements that `Next` goes through from the element at `k`. -/
def after (l : LinkedList α) (k : Nat) : List (Nat × α) :=
  (l.elems.dropWhile fun e => e.1 != k).tail

/-- The element before the one at `k`. -/
def prev (l : LinkedList α) (k : Nat) : Option (Nat × α) :=
  (l.elems.takeWhile fun e => e.1 != k).getLast?

/-- A list of one element. -/
def singleton (a : α) : LinkedList α where
  elems := [(0, a)]
  fresh := 1
  nodup := by simp
  lt_fresh := by simp

/-- Remove the element at `k`. -/
def remove (l : LinkedList α) (k : Nat) : LinkedList α where
  elems := l.elems.filter fun e => e.1 != k
  fresh := l.fresh
  nodup := l.nodup.sublist (List.filter_sublist.map Prod.fst)
  lt_fresh := fun e he => l.lt_fresh e (List.mem_of_mem_filter he)

/-- Give the element at `k` a new value. -/
def setValue (l : LinkedList α) (k : Nat) (a : α) : LinkedList α where
  elems := l.elems.map fun e => if e.1 = k then (k, a) else e
  fresh := l.fresh
  nodup := by
    have hkeys : (l.elems.map fun e => if e.1 = k then (k, a) else e).map Prod.fst =
        l.elems.map Prod.fst := by
      rw [List.map_map]
      refine List.map_congr_left fun e _ => ?_
      by_cases h : e.1 = k <;> simp [h]
    exact hkeys ▸ l.nodup
  lt_fresh := by
    intro e he
    obtain ⟨e', he', rfl⟩ := List.mem_map.mp he
    have hlt := l.lt_fresh e' he'
    by_cases h : e'.1 = k
    · rw [if_pos h]
      exact h ▸ hlt
    · rw [if_neg h]
      exact hlt

/-- The elements with a new one behind the one at `k`. -/
def insertElem (n : Nat) (a : α) (k : Nat) : List (Nat × α) → List (Nat × α)
  | [] => []
  | e :: es => if e.1 = k then e :: (n, a) :: es else e :: insertElem n a k es

variable {e : Nat × α}

theorem insertElem_perm {n k : Nat} {a : α} : ∀ es : List (Nat × α),
    (insertElem n a k es).Perm ((n, a) :: es) ∨ insertElem n a k es = es
  | [] => .inr rfl
  | e :: es => by
    rw [insertElem]
    split
    · exact .inl (.swap ..)
    · exact (insertElem_perm es).imp (fun h => (h.cons e).trans (.swap ..)) (congrArg _)

theorem mem_insertElem {n k : Nat} {a : α} {es : List (Nat × α)} (h : e ∈ insertElem n a k es) :
    e = (n, a) ∨ e ∈ es := by
  cases insertElem_perm es with
  | inl hperm => exact List.mem_cons.mp (hperm.mem_iff.mp h)
  | inr heq => exact .inr (heq ▸ h)

theorem nodup_insertElem {n k : Nat} {a : α} {es : List (Nat × α)}
    (hnodup : (es.map Prod.fst).Nodup) (hlt : ∀ e ∈ es, e.1 < n) :
    ((insertElem n a k es).map Prod.fst).Nodup := by
  cases insertElem_perm es with
  | inl hperm =>
    rw [(hperm.map Prod.fst).nodup_iff, List.map_cons, List.nodup_cons]
    refine ⟨fun hmem => ?_, hnodup⟩
    obtain ⟨e, he, heq⟩ := List.mem_map.mp hmem
    exact absurd heq (Nat.ne_of_lt (hlt e he))
  | inr heq => rwa [heq]

/-- Insert a new element behind the one at `k`. -/
def insertAfter (l : LinkedList α) (a : α) (k : Nat) : LinkedList α where
  elems := insertElem l.fresh a k l.elems
  fresh := l.fresh + 1
  nodup := nodup_insertElem l.nodup l.lt_fresh
  lt_fresh := by
    intro e he
    cases mem_insertElem he with
    | inl heq => simp [heq]
    | inr hin => exact Nat.lt_succ_of_lt (l.lt_fresh e hin)

/-! ## operations at an element -/

section Split

variable {l : LinkedList α} {pre post : List (Nat × α)} {k : Nat} {a : α}

/-- The address of an element is nobody else's. -/
theorem ne_of_split (h : l.elems = pre ++ (k, a) :: post) :
    (∀ e ∈ pre, e.1 ≠ k) ∧ ∀ e ∈ post, e.1 ≠ k := by
  have hnodup := l.nodup
  rw [h, List.map_append, List.map_cons, List.nodup_append, List.nodup_cons] at hnodup
  obtain ⟨-, ⟨hpost, -⟩, hpre⟩ := hnodup
  constructor
  · intro e he heq
    exact hpre e.1 (List.mem_map_of_mem he) k List.mem_cons_self heq
  · intro e he heq
    exact hpost (List.mem_map.mpr ⟨e, he, heq⟩)

theorem elems_remove (h : l.elems = pre ++ (k, a) :: post) : (l.remove k).elems = pre ++ post := by
  obtain ⟨hpre, hpost⟩ := ne_of_split h
  have hkeepPre : pre.filter (fun e => e.1 != k) = pre :=
    List.filter_eq_self.mpr fun e he => by simp [hpre e he]
  have hkeepPost : post.filter (fun e => e.1 != k) = post :=
    List.filter_eq_self.mpr fun e he => by simp [hpost e he]
  simp only [remove, h, List.filter_append]
  rw [List.filter_cons_of_neg (by simp), hkeepPre, hkeepPost]

theorem elems_setValue (b : α) (h : l.elems = pre ++ (k, a) :: post) :
    (l.setValue k b).elems = pre ++ (k, b) :: post := by
  obtain ⟨hpre, hpost⟩ := ne_of_split h
  have hkeep : ∀ es : List (Nat × α), (∀ e ∈ es, e.1 ≠ k) →
      es.map (fun e => if e.1 = k then (k, b) else e) = es := by
    intro es hes
    conv_rhs => rw [← List.map_id es]
    exact List.map_congr_left fun e he => by simp [hes e he]
  simp [setValue, h, hkeep pre hpre, hkeep post hpost]

theorem elems_insertAfter (b : α) (h : l.elems = pre ++ (k, a) :: post) :
    (l.insertAfter b k).elems = pre ++ (k, a) :: (l.fresh, b) :: post := by
  have hinsert : ∀ es : List (Nat × α), (∀ e ∈ es, e.1 ≠ k) →
      insertElem l.fresh b k (es ++ (k, a) :: post) = es ++ (k, a) :: (l.fresh, b) :: post := by
    intro es hes
    induction es with
    | nil => simp [insertElem]
    | cons e es ih =>
      obtain ⟨he, hes⟩ := List.forall_mem_cons.mp hes
      rw [List.cons_append, insertElem, if_neg he, ih hes, List.cons_append]
  simp only [insertAfter, h, hinsert pre (ne_of_split h).1]

theorem after_eq (h : l.elems = pre ++ (k, a) :: post) : l.after k = post := by
  have hpre := (ne_of_split h).1
  rw [after, h, List.dropWhile_append_of_pos (by simpa using hpre)]
  simp

theorem prev_eq (h : l.elems = pre ++ (k, a) :: post) : l.prev k = pre.getLast? := by
  have hpre := (ne_of_split h).1
  rw [prev, h, List.takeWhile_append_of_pos (by simpa using hpre)]
  simp

end Split

/-! ## what holds of all values -/

section Values

variable {l : LinkedList α} {k : Nat} {P : α → Prop}

theorem mem_elems_of_mem_after (h : e ∈ l.after k) : e ∈ l.elems :=
  (List.dropWhile_sublist _).mem (List.mem_of_mem_tail h)

theorem mem_elems_of_prev (h : l.prev k = some e) : e ∈ l.elems :=
  (List.takeWhile_sublist _).mem (List.mem_of_getLast? h)

theorem forall_values_remove (h : ∀ a ∈ l.values, P a) : ∀ a ∈ (l.remove k).values, P a := by
  intro a ha
  obtain ⟨e, he, rfl⟩ := List.mem_map.mp ha
  exact h e.2 (List.mem_map_of_mem (List.mem_of_mem_filter he))

theorem forall_values_setValue {b : α} (h : ∀ a ∈ l.values, P a) (hb : P b) :
    ∀ a ∈ (l.setValue k b).values, P a := by
  intro a ha
  obtain ⟨e, he, rfl⟩ := List.mem_map.mp ha
  obtain ⟨e', he', rfl⟩ := List.mem_map.mp he
  split
  · exact hb
  · exact h e'.2 (List.mem_map_of_mem he')

theorem forall_values_insertAfter {b : α} (h : ∀ a ∈ l.values, P a) (hb : P b) :
    ∀ a ∈ (l.insertAfter b k).values, P a := by
  intro a ha
  obtain ⟨e, he, rfl⟩ := List.mem_map.mp ha
  cases mem_insertElem he with
  | inl heq => exact heq ▸ hb
  | inr hin => exact h e.2 (List.mem_map_of_mem hin)

end Values

end LinkedList
