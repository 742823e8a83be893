import MoqQuic.Lib.Outcome
import MoqQuic.Lib.Parse

/-!
# MoqQuic.Lib.Append

Functions that write at the end of a slice.

`Appends F` says that `F` leaves the slice it is given as it is and adds to it what it writes to the
empty slice, or fails as it does there. Such functions compose, so that what a sequence of them
writes can be computed on the empty slice.
-/

variable {ε α : Type}

/-- `F` adds to a slice what it writes to the empty one. -/
def Appends (F : Bytes → Except ε Bytes) : Prop := ∀ b, F b = (F []).map (b ++ ·)

namespace Appends

variable {F G : Bytes → Except ε Bytes}

theorem of_ok (bs : Bytes) (h : ∀ b, F b = .ok (b ++ bs)) : Appends F := by
  intro b
  rw [h b, h [], List.nil_append]
  rfl

theorem nil : Appends (fun b => (.ok b : Except ε Bytes)) :=
  of_ok [] fun b => by rw [List.append_nil]

theorem bytes (bs : Bytes) : Appends (fun b => (.ok (b ++ bs) : Except ε Bytes)) :=
  of_ok bs fun _ => rfl

theorem error (e : ε) : Appends (fun _ => (.error e : Except ε Bytes)) := fun _ => rfl

theorem ok (h : Appends F) {bs : Bytes} (hbs : F [] = .ok bs) (b : Bytes) :
    F b = .ok (b ++ bs) := by
  rw [h b, hbs]
  rfl

/-- One function after the other. -/
theorem bind (hF : Appends F) (hG : Appends G) : Appends (fun b => F b >>= G) := by
  intro b
  dsimp only
  rw [hF b]
  cases F [] with
  | error e => rfl
  | ok bs =>
    have hbs := hG bs
    have hb := hG (b ++ bs)
    simp only [Except.map, Outcome.ok_bind]
    rw [hb, hbs]
    cases G [] with
    | error e => rfl
    | ok cs => simp [Except.map]

/-- A loop over a list. -/
theorem foldlM {f : Bytes → α → Except ε Bytes} :
    ∀ as : List α, (∀ a ∈ as, Appends (f · a)) → Appends (fun b => as.foldlM f b)
  | [], _ => nil
  | a :: as, hf =>
    (hf a List.mem_cons_self).bind (foldlM as fun a' ha' => hf a' (List.mem_cons_of_mem _ ha'))

end Appends
