import Mathlib.Data.List.Basic

/-!
# MoqQuic.Lib.Outcome

Postconditions of computations that may fail.

`Holds E Q x` says that `x` returns a value with `Q` or fails with an error in `E`.
The rules follow the shape of the program: `Holds.bind` for a sequence, and
`holds_foldlM` for a loop over a list, whose invariant may speak of the elements that
are still to come.
-/

namespace Outcome

variable {ε α β : Type} {E : ε → Prop} {Q : α → Prop} {R : β → Prop}

@[simp] theorem ok_bind (a : α) (f : α → Except ε β) : (Except.ok a >>= f) = f a := rfl

variable {x : Except ε α}

/-- A function of a branch is the branch of the functions, also when the condition is only the
same by definition. -/
theorem ite_map {c : Prop} [Decidable c] {f : α → β} {a a' : α} {b b' : β} (h : b = f a)
    (h' : b' = f a') : (if c then b else b') = f (if c then a else a') := by
  split
  · exact h
  · exact h'

/-- A sequence whose first part is mapped. -/
theorem bind_map {α' β' : Type} {f : α → α'} {k : β → β'} {g : α → Except ε β}
    {g' : α' → Except ε β'} (h : ∀ a, g' (f a) = (g a).map k) :
    (x.map f >>= g') = (x >>= g).map k := by
  cases x with
  | ok a => exact h a
  | error e => rfl

/-- A sequence returns when both parts do. -/
theorem bind_eq_ok {f : α → Except ε β} {b : β} :
    (x >>= f) = .ok b ↔ ∃ a, x = .ok a ∧ f a = .ok b := by
  cases x with
  | ok a => simp
  | error e => simp [bind, Except.bind]

variable {a : α}

/-- Renaming the errors does not change what is returned. -/
theorem mapError_eq_ok {δ : Type} {f : ε → δ} : x.mapError f = .ok a ↔ x = .ok a := by
  cases x <;> simp [Except.mapError]

/-- The computation returns with `Q` or fails with `E`. -/
def Holds (E : ε → Prop) (Q : α → Prop) : Except ε α → Prop
  | .ok a => Q a
  | .error e => E e

@[simp] theorem holds_ok : Holds E Q (.ok a : Except ε α) ↔ Q a := Iff.rfl

@[simp] theorem holds_pure : Holds E Q (pure a : Except ε α) ↔ Q a := Iff.rfl

@[simp] theorem holds_error {e : ε} : Holds E Q (.error e) ↔ E e := Iff.rfl

theorem Holds.imp {Q' : α → Prop} (h : Holds E Q x) (hQ : ∀ a, Q a → Q' a) : Holds E Q' x := by
  cases x with
  | ok a => exact hQ a h
  | error e => exact h

/-- Forget how it fails. -/
theorem Holds.any (h : Holds E Q x) : Holds (fun _ => True) Q x := by
  cases x with
  | ok a => exact h
  | error e => trivial

/-- Two postconditions of one computation. -/
theorem Holds.and {Q' : α → Prop} (h : Holds E Q x) (h' : Holds E Q' x) :
    Holds E (fun a => Q a ∧ Q' a) x := by
  cases x with
  | ok a => exact ⟨h, h'⟩
  | error e => exact h

/-- **Sequence**. -/
theorem Holds.bind {f : α → Except ε β} (h : Holds E Q x) (hf : ∀ a, Q a → Holds E R (f a)) :
    Holds E R (x >>= f) := by
  cases x with
  | ok a => exact hf a h
  | error e => exact h

variable {f : β → α → Except ε β}

/-- **Loop**: the invariant is about the elements to come and the state. -/
theorem holds_foldlM {I : List α → β → Prop}
    (hstep : ∀ a as b, I (a :: as) b → Holds E (I as) (f b a)) :
    ∀ (as : List α) (b : β), I as b → Holds E (I []) (as.foldlM f b)
  | [], _, h => h
  | a :: as, b, h => by
    rw [List.foldlM_cons]
    exact (hstep a as b h).bind fun b' hb' => holds_foldlM hstep as b' hb'

/-- A loop over nothing. -/
theorem holds_foldlM_nil {as : List α} (has : as = []) (b : β) :
    Holds E (fun b' => b' = b) (as.foldlM f b) := by
  rw [has, List.foldlM_nil]
  rfl

/-- A computation that cannot fail returns. -/
theorem Holds.exists_ok (h : Holds (fun _ => False) Q x) : ∃ a, x = .ok a ∧ Q a := by
  cases x with
  | ok a => exact ⟨a, rfl, h⟩
  | error e => exact h.elim

/-- What a computation that returned has. -/
theorem Holds.of_ok (h : Holds E Q x) (hx : x = .ok a) : Q a := by
  rw [hx] at h
  exact h

end Outcome
