import Mathlib.Data.List.Basic

/-!
# MoqQuic.Lib.Bisect

Search by bisection.

`search n f` looks for the smallest index below `n` at which `f` is true, as far as `f` stays true
once it is. On a list whose elements have a property from some position on, it finds the same as a
search from the start.
-/

namespace Bisect

variable {f : Nat → Bool} {n i j : Nat}

/-- The search between `i` and `j`, for a number of rounds. -/
def searchFrom (f : Nat → Bool) : Nat → Nat → Nat → Nat
  | 0, i, _ => i
  | rounds + 1, i, j =>
    if i < j then
      let h := (i + j) / 2
      if f h then searchFrom f rounds i h else searchFrom f rounds (h + 1) j
    else i

def search (n : Nat) (f : Nat → Bool) : Nat := searchFrom f n 0 n

/-- What is known during the search: `f` is false below `i`, and true from `j` on. -/
theorem searchFrom_spec (hmono : ∀ i j, i ≤ j → j < n → f i = true → f j = true) :
    ∀ {rounds i j : Nat}, j - i ≤ rounds → i ≤ j → j ≤ n → (∀ k < i, f k = false) →
      (j < n → f j = true) →
      searchFrom f rounds i j ≤ n ∧ (∀ k < searchFrom f rounds i j, f k = false) ∧
        (searchFrom f rounds i j < n → f (searchFrom f rounds i j) = true)
  | 0, i, j, hrounds, hij, hj, hbelow, habove => by
    have heq : i = j := by omega
    subst heq
    exact ⟨hj, hbelow, habove⟩
  | rounds + 1, i, j, hrounds, hij, hj, hbelow, habove => by
    rw [searchFrom]
    split
    · simp only
      split
      · rename_i hlt hmid
        exact searchFrom_spec hmono (by omega) (by omega) (by omega) hbelow fun _ => hmid
      · rename_i hlt hmid
        refine searchFrom_spec hmono (by omega) (by omega) hj (fun k hk => ?_) habove
        -- a true value below would make the middle true
        by_contra htrue
        rw [Bool.not_eq_false] at htrue
        exact hmid (hmono k _ (by omega) (by omega) htrue)
    · have heq : i = j := by omega
      subst heq
      exact ⟨hj, hbelow, habove⟩

/-- **The search** finds the smallest index. -/
theorem search_spec (hmono : ∀ i j, i ≤ j → j < n → f i = true → f j = true) :
    search n f ≤ n ∧ (∀ k < search n f, f k = false) ∧ (search n f < n → f (search n f) = true) :=
  searchFrom_spec hmono (Nat.le_of_eq (Nat.sub_zero n)) (Nat.zero_le n) (Nat.le_refl n) (by simp)
    fun h => absurd h (Nat.lt_irrefl n)

/-- **The search in a list** agrees with a search from the start. -/
theorem getElem?_search {α : Type} {as : List α} {P : α → Bool}
    (hmono : as.Pairwise fun a b => P a = true → P b = true) :
    as[search as.length fun i => as[i]?.any P]? = as.find? P := by
  have hspec : ∀ i j, i ≤ j → j < as.length → as[i]?.any P = true → as[j]?.any P = true := by
    intro i j hij hj hi
    rcases Nat.lt_or_eq_of_le hij with hlt | rfl
    · have hi' : i < as.length := Nat.lt_trans hlt hj
      rw [List.getElem?_eq_getElem hi', Option.any_some] at hi
      rw [List.getElem?_eq_getElem hj, Option.any_some]
      exact List.pairwise_iff_getElem.mp hmono i j hi' hj hlt hi
    · exact hi
  obtain ⟨hle, hbelow, hat⟩ := search_spec hspec
  generalize search as.length (fun i => as[i]?.any P) = r at hle hbelow hat
  have hnot : ∀ k (hk : k < r) (hk' : k < as.length), P as[k] = false := by
    intro k hk hk'
    have hfalse := hbelow k hk
    rw [List.getElem?_eq_getElem hk', Option.any_some] at hfalse
    exact hfalse
  rcases Nat.lt_or_eq_of_le hle with hlt | rfl
  · have htrue := hat hlt
    rw [List.getElem?_eq_getElem hlt, Option.any_some] at htrue
    rw [List.getElem?_eq_getElem hlt, eq_comm, List.find?_eq_some_iff_getElem]
    exact ⟨htrue, r, hlt, rfl, fun k hk => by simp [hnot k hk (Nat.lt_trans hk hlt)]⟩
  · rw [List.getElem?_eq_none (Nat.le_refl _), eq_comm, List.find?_eq_none]
    intro a ha
    obtain ⟨k, hk, rfl⟩ := List.getElem_of_mem ha
    simp [hnot k hk hk]

end Bisect
