import Mathlib.Data.List.Infix

/-!
# MoqQuic.Lib.Parse

Parse methods over a byte stream.

A *parse method* fills the fields of a receiver from a stream.  It may stop with
an error at any point, and then the fields that were filled so far stay filled
and the bytes that were read stay read; so the result of a run is an error or a
value, the receiver, and the unread bytes.

Two relations between a method and a byte string carry the proofs:

* `Reads p s bs a s'` — on `bs` followed by anything, `p` returns `a`, turns the
  receiver `s` into `s'` and leaves exactly what follows;
* `Exact p s bs a s'` — moreover, on every strict prefix of `bs` it fails with
  nothing left unread.

Both compose along `bind`, so a codec is proved field by field.
-/

/-- Byte strings. -/
abbrev Bytes := List UInt8

/-- The errors a byte stream reports when it ends: before the first byte asked
for, or in the middle. -/
class StreamError (ε : Type*) where
  eof : ε
  unexpectedEOF : ε

/-- A parse method with receiver type `σ`, error type `ε` and result type `α`. -/
def Parse (ε σ : Type) (α : Type) : Type := σ → Bytes → Except ε α × σ × Bytes

namespace Parse

variable {ε σ τ α β : Type}

instance : Monad (Parse ε σ) where
  pure a s r := (.ok a, s, r)
  bind p f s r :=
    match p s r with
    | (.ok a, s', r') => f a s' r'
    | (.error e, s', r') => (.error e, s', r')

/-! ## building blocks -/

/-- Return an error. -/
def fail (e : ε) : Parse ε σ α := fun s r => (.error e, s, r)

/-- Change the receiver. -/
def update (f : σ → σ) : Parse ε σ Unit := fun s r => (.ok (), f s, r)

/-- Assign what `p` returns; a failed `p` returns the zero value along with its
error, and that is assigned too. -/
def assign [Inhabited α] (p : Parse ε σ α) (set : σ → α → σ) : Parse ε σ Unit := fun s r =>
  match p s r with
  | (.ok a, s', r') => (.ok (), set s' a, r')
  | (.error e, s', r') => (.error e, set s' default, r')

/-- Run `p` and change its error. -/
def mapError {ε' : Type} (g : ε → ε') (p : Parse ε σ α) : Parse ε' σ α := fun s r =>
  match p s r with
  | (.ok a, s', r') => (.ok a, s', r')
  | (.error e, s', r') => (.error (g e), s', r')

/-- Run `p` only if the receiver meets a condition. -/
def onlyIf (c : σ → Bool) (p : Parse ε σ Unit) : Parse ε σ Unit := fun s r =>
  if c s then p s r else (.ok (), s, r)

/-- Run `p` `n` times. -/
def times (p : Parse ε σ Unit) : Nat → Parse ε σ Unit
  | 0 => pure ()
  | n + 1 => do
    p
    times p n

/-- Run `p` on a receiver of its own; its error is handed over as a value. -/
def nested (zero : τ) (p : Parse ε τ α) : Parse ε σ (Except ε α × τ) := fun s r =>
  match p zero r with
  | (x, t, r') => (.ok (x, t), s, r')

/-- One byte. -/
def readByte [StreamError ε] : Parse ε σ UInt8
  | s, [] => (.error StreamError.eof, s, [])
  | s, b :: r => (.ok b, s, r)

/-- Exactly `n` bytes. -/
def readFull [StreamError ε] (n : Nat) : Parse ε σ Bytes := fun s r =>
  if n ≤ r.length then (.ok (r.take n), s, r.drop n)
  else if r = [] then (.error StreamError.eof, s, [])
  else (.error StreamError.unexpectedEOF, s, [])

/-- The next `n` bytes of a slice; one that is too short is left as it is. -/
def takeSlice [StreamError ε] (n : Nat) : Parse ε σ Bytes := fun s r =>
  if n > r.length then (.error StreamError.eof, s, r) else (.ok (r.take n), s, r.drop n)

/-- As many of `n` bytes as the stream has, in a zeroed buffer of length `n`. -/
def readInto (n : Nat) : Parse ε σ Bytes := fun s r =>
  (.ok (r.take n ++ List.replicate (n - r.length) 0), s, r.drop n)

/-! ## equations -/

variable {p : Parse ε σ α} {f : α → Parse ε σ β} {s s' s'' : σ} {r r' bs cs : Bytes} {a : α} {b : β}

theorem bind_ok (h : p s r = (.ok a, s', r')) : (p >>= f) s r = f a s' r' := by
  change (match p s r with
    | (.ok a, s', r') => f a s' r'
    | (.error e, s', r') => (.error e, s', r')) = _
  rw [h]

theorem bind_error {e : ε} (h : p s r = (.error e, s', r')) :
    (p >>= f) s r = (.error e, s', r') := by
  change (match p s r with
    | (.ok a, s', r') => f a s' r'
    | (.error e, s', r') => (.error e, s', r')) = _
  rw [h]

/-! ## exact reads -/

/-- On `bs` followed by anything, `p` returns `a`, turns `s` into `s'` and leaves
what follows. -/
def Reads (p : Parse ε σ α) (s : σ) (bs : Bytes) (a : α) (s' : σ) : Prop :=
  ∀ rest, p s (bs ++ rest) = (.ok a, s', rest)

/-- `p` reads `bs`, and fails on every strict prefix of it, leaving nothing. -/
structure Exact (p : Parse ε σ α) (s : σ) (bs : Bytes) (a : α) (s' : σ) : Prop where
  reads : Reads p s bs a s'
  starves : ∀ cut, cut <+: bs → cut ≠ bs → ∃ e s'', p s cut = (.error e, s'', [])

theorem Reads.pure (a : α) (s : σ) : Reads (Pure.pure a : Parse ε σ α) s [] a s := fun _ => rfl

theorem Reads.bind (hp : Reads p s bs a s') (hf : Reads (f a) s' cs b s'') :
    Reads (p >>= f) s (bs ++ cs) b s'' := by
  intro rest
  rw [List.append_assoc, bind_ok (hp (cs ++ rest))]
  exact hf rest

/-- A strict prefix of an append ends inside the first part or inside the
second. -/
theorem strict_prefix_append {cut : Bytes} (h : cut <+: bs ++ cs) (hne : cut ≠ bs ++ cs) :
    (cut <+: bs ∧ cut ≠ bs) ∨ ∃ cut', cut = bs ++ cut' ∧ cut' <+: cs ∧ cut' ≠ cs := by
  obtain ⟨t, ht⟩ := h
  rw [List.append_eq_append_iff] at ht
  obtain ⟨xs, hbs, -⟩ | ⟨ys, hcut, hcs⟩ := ht
  · by_cases heq : cut = bs
    · subst heq
      refine Or.inr ⟨[], by simp, List.nil_prefix, ?_⟩
      rintro rfl
      exact hne (by simp)
    · exact Or.inl ⟨⟨xs, hbs.symm⟩, heq⟩
  · refine Or.inr ⟨ys, hcut, ⟨t, hcs.symm⟩, ?_⟩
    rintro rfl
    exact hne hcut

theorem Exact.pure (a : α) (s : σ) : Exact (Pure.pure a : Parse ε σ α) s [] a s := by
  refine ⟨Reads.pure a s, fun cut hcut hne => ?_⟩
  exact absurd (List.prefix_nil.mp hcut) hne

/-- **Composition**: a cut ends inside the part of `p`, and then `p` starves, or
after it, and then `f` does. -/
theorem Exact.bind (hp : Exact p s bs a s') (hf : Exact (f a) s' cs b s'') :
    Exact (p >>= f) s (bs ++ cs) b s'' := by
  refine ⟨hp.reads.bind hf.reads, fun cut hcut hne => ?_⟩
  obtain ⟨hpre, hne'⟩ | ⟨cut', rfl, hpre, hne'⟩ := strict_prefix_append hcut hne
  · obtain ⟨e, t, hrun⟩ := hp.starves cut hpre hne'
    exact ⟨e, t, bind_error hrun⟩
  · obtain ⟨e, t, hrun⟩ := hf.starves cut' hpre hne'
    exact ⟨e, t, (bind_ok (hp.reads cut')).trans hrun⟩

theorem Reads.bind_pure {g : α → β} (hp : Reads p s bs a s') :
    Reads (p >>= fun a => Pure.pure (g a)) s bs (g a) s' := by
  have h := hp.bind (f := fun a => Pure.pure (g a)) (Reads.pure (g a) s')
  rwa [List.append_nil] at h

theorem Reads.mapError {ε' : Type} {g : ε → ε'} (hp : Reads p s bs a s') :
    Reads (mapError g p) s bs a s' := by
  intro rest
  simp only [Parse.mapError, hp rest]

/-- A method that checks a condition before it goes on. -/
theorem Reads.guard {c : Prop} [Decidable c] {e : ε} (hc : ¬ c) (hp : Reads p s bs a s') :
    Reads (if c then Parse.fail e else p) s bs a s' := by
  rw [if_neg hc]
  exact hp

variable {set : σ → α → σ}

theorem Reads.assign [Inhabited α] (hp : Reads p s bs a s') :
    Reads (assign p set) s bs () (set s' a) := by
  intro rest
  simp only [Parse.assign, hp rest]

theorem Exact.assign [Inhabited α] (hp : Exact p s bs a s') :
    Exact (Parse.assign p set) s bs () (set s' a) := by
  refine ⟨hp.reads.assign, fun cut hcut hne => ?_⟩
  obtain ⟨e, t, hrun⟩ := hp.starves cut hcut hne
  exact ⟨e, set t default, by simp only [Parse.assign, hrun]⟩

variable (g : σ → σ)

theorem Reads.update (s : σ) : Reads (update g : Parse ε σ Unit) s [] () (g s) :=
  fun _ => rfl

theorem Exact.update_bind {f : Unit → Parse ε σ β} (hf : Exact (f ()) (g s) bs b s') :
    Exact (Parse.update g >>= f) s bs b s' :=
  ⟨hf.reads, hf.starves⟩

/-- The last step of a method, after its last field. -/
theorem Reads.bind_update {g : α → σ → σ} (hp : Reads p s bs a s') :
    Reads (p >>= fun a => Parse.update (g a)) s bs () (g a s') := by
  have h := hp.bind (f := fun a => Parse.update (g a)) (Reads.update (g a) s')
  rwa [List.append_nil] at h

variable {c : σ → Bool}

theorem Reads.onlyIf {p : Parse ε σ Unit} (h : c s = true → Reads p s bs () s')
    (h' : c s = false → bs = [] ∧ s' = s) : Reads (onlyIf c p) s bs () s' := by
  intro rest
  unfold Parse.onlyIf
  cases hc : c s with
  | true => exact h hc rest
  | false =>
    obtain ⟨rfl, rfl⟩ := h' hc
    rfl

theorem Reads.nested {zero t : τ} {p : Parse ε τ α} (hp : Reads p zero bs a t) :
    Reads (nested zero p : Parse ε σ _) s bs (.ok a, t) s := by
  intro rest
  simp only [Parse.nested, hp rest]

/-- **Loops**: a method that reads the encoding of each element of a list reads
the whole list in as many rounds. -/
theorem Reads.times {γ : Type} {p : Parse ε σ Unit} {enc : γ → Bytes} {upd : σ → γ → σ} :
    ∀ (xs : List γ) (s : σ), (∀ x ∈ xs, ∀ s, Reads p s (enc x) () (upd s x)) →
      Reads (times p xs.length) s (xs.flatMap enc) () (xs.foldl upd s)
  | [], s, _ => Reads.pure () s
  | x :: xs, s, h => by
    rw [List.flatMap_cons, List.length_cons, List.foldl_cons]
    refine Reads.bind (h x List.mem_cons_self s) ?_
    exact Reads.times xs _ fun y hy => h y (List.mem_cons_of_mem _ hy)

theorem exact_readByte [StreamError ε] (b : UInt8) (s : σ) :
    Exact (readByte : Parse ε σ UInt8) s [b] b s := by
  refine ⟨fun _ => rfl, fun cut hcut hne => ?_⟩
  have hnil : cut = [] := by
    rw [← List.length_eq_zero_iff]
    have hle := hcut.length_le
    have hlen : cut.length ≠ 1 := fun h => hne (hcut.eq_of_length h)
    simp only [List.length_singleton] at hle
    omega
  subst hnil
  exact ⟨StreamError.eof, s, rfl⟩

theorem exact_readFull [StreamError ε] (bs : Bytes) (s : σ) :
    Exact (readFull bs.length : Parse ε σ Bytes) s bs bs s := by
  refine ⟨fun rest => ?_, fun cut hcut hne => ?_⟩
  · simp [readFull]
  · have hlt : ¬ bs.length ≤ cut.length := fun h => hne (hcut.eq_of_length_le h)
    unfold readFull
    rw [if_neg hlt]
    split
    · exact ⟨_, s, rfl⟩
    · exact ⟨_, s, rfl⟩

theorem reads_takeSlice [StreamError ε] (bs : Bytes) (s : σ) :
    Reads (takeSlice bs.length : Parse ε σ Bytes) s bs bs s := by
  intro rest
  simp [takeSlice]

/-! ## what a reader can do -/

/-- Whatever the stream, `p` fails at its end with the receiver untouched, or
returns a value that `Q` allows for the number of bytes read, `n` of them before
`p` and the rest by `p`. -/
def Spends [StreamError ε] (Q : Nat → α → Prop) (n : Nat) (p : Parse ε σ α) : Prop :=
  ∀ s r, p s r = (.error StreamError.eof, s, []) ∨
    ∃ a used rest, r = used ++ rest ∧ p s r = (.ok a, s, rest) ∧ Q (n + used.length) a

variable {Q : Nat → α → Prop}

theorem Spends.pure [StreamError ε] {n : Nat} (h : Q n a) :
    Spends Q n (Pure.pure a : Parse ε σ α) :=
  fun _ r => Or.inr ⟨a, [], r, rfl, rfl, h⟩

theorem Spends.readByte_bind [StreamError ε] {Q : Nat → β → Prop} {n : Nat}
    {f : UInt8 → Parse ε σ β} (h : ∀ b, Spends Q (n + 1) (f b)) : Spends Q n (readByte >>= f) := by
  intro s r
  cases r with
  | nil => exact Or.inl rfl
  | cons b r =>
    have hrun : (readByte >>= f) s (b :: r) = f b s r := rfl
    rw [hrun]
    obtain herr | ⟨a, used, rest, rfl, hok, hq⟩ := h b s r
    · exact Or.inl herr
    · refine Or.inr ⟨a, b :: used, rest, rfl, hok, ?_⟩
      rw [List.length_cons, Nat.add_comm used.length 1, ← Nat.add_assoc]
      exact hq

/-- Whatever the stream, `p` fails with nothing left unread, or returns a value and
has read at least its cost. -/
def Costs (cost : α → Nat) (p : Parse ε σ α) : Prop :=
  ∀ s r, (∃ e, p s r = (.error e, s, [])) ∨
    ∃ a rest, p s r = (.ok a, s, rest) ∧ rest.length + cost a ≤ r.length

theorem Spends.costs [StreamError ε] {cost : α → Nat} (h : Spends Q 0 p)
    (hQ : ∀ n a, Q n a → cost a ≤ n) : Costs cost p := by
  intro s r
  obtain herr | ⟨a, used, rest, rfl, hok, hq⟩ := h s r
  · exact Or.inl ⟨_, herr⟩
  · have hle := hQ _ a hq
    refine Or.inr ⟨a, rest, hok, ?_⟩
    rw [List.length_append]
    omega

theorem costs_readByte [StreamError ε] : Costs (fun _ => 1) (readByte : Parse ε σ UInt8) := by
  intro s r
  cases r with
  | nil => exact Or.inl ⟨_, rfl⟩
  | cons b r => exact Or.inr ⟨b, r, rfl, by simp⟩

/-- Whatever the stream, `p` fails with nothing left unread, or the weight of the
receiver has grown by no more than the bytes read. -/
def Pays (p : Parse ε σ Unit) (w w' : σ → Nat) : Prop :=
  ∀ s r, (∃ e s', p s r = (.error e, s', [])) ∨
    ∃ s' rest, p s r = (.ok (), s', rest) ∧ rest.length + w' s' ≤ r.length + w s

theorem Pays.bind {p q : Parse ε σ Unit} {w w' w'' : σ → Nat} (hp : Pays p w w')
    (hq : Pays q w' w'') : Pays (p >>= fun _ => q) w w'' := by
  intro s r
  obtain ⟨e, s', herr⟩ | ⟨s', mid, hok, hle⟩ := hp s r
  · exact Or.inl ⟨e, s', bind_error herr⟩
  · rw [bind_ok hok]
    obtain herr | ⟨s'', rest, hok', hle'⟩ := hq s' mid
    · exact Or.inl herr
    · exact Or.inr ⟨s'', rest, hok', by omega⟩

theorem Pays.assign [Inhabited α] {cost : α → Nat} {w w' : σ → Nat} (hp : Costs cost p)
    (hset : ∀ s a, w' (set s a) ≤ w s + cost a) :
    Pays (Parse.assign p set) w w' := by
  intro s r
  unfold Parse.assign
  obtain ⟨e, herr⟩ | ⟨a, rest, hok, hle⟩ := hp s r
  · rw [herr]
    exact Or.inl ⟨e, _, rfl⟩
  · rw [hok]
    have := hset s a
    exact Or.inr ⟨_, rest, rfl, by omega⟩

theorem Pays.onlyIf {p : Parse ε σ Unit} {w w' : σ → Nat} (hp : Pays p w w')
    (hskip : ∀ s, c s = false → w' s ≤ w s) : Pays (Parse.onlyIf c p) w w' := by
  intro s r
  unfold Parse.onlyIf
  cases hc : c s with
  | true => exact hp s r
  | false =>
    have := hskip s hc
    exact Or.inr ⟨s, r, rfl, by omega⟩

/-! ## what the returned values satisfy -/

/-- Every value that `p` returns satisfies `Q`. -/
def Yields (Q : α → Prop) (p : Parse ε σ α) : Prop :=
  ∀ s r a s' r', p s r = (.ok a, s', r') → Q a

theorem Yields.pure {Q : α → Prop} (h : Q a) : Yields Q (Pure.pure a : Parse ε σ α) := by
  intro s r a' s' r' hrun
  obtain ⟨⟨⟩, -⟩ := Prod.mk.inj hrun
  exact h

theorem Yields.fail (Q : α → Prop) (e : ε) : Yields Q (Parse.fail e : Parse ε σ α) := by
  intro s r a s' r' hrun
  obtain ⟨⟨⟩, -⟩ := Prod.mk.inj hrun

theorem Yields.bind {P : α → Prop} {Q : β → Prop} (hp : Yields P p)
    (hf : ∀ a, P a → Yields Q (f a)) : Yields Q (p >>= f) := by
  intro s r b s' r' hrun
  rcases hmid : p s r with ⟨x, t, mid⟩
  cases x with
  | error e =>
    rw [bind_error hmid] at hrun
    obtain ⟨⟨⟩, -⟩ := Prod.mk.inj hrun
  | ok a =>
    rw [bind_ok hmid] at hrun
    exact hf a (hp s r a t mid hmid) t mid b s' r' hrun

theorem Yields.mapError {ε' : Type} {g : ε → ε'} {Q : α → Prop} (hp : Yields Q p) :
    Yields Q (mapError g p) := by
  intro s r a s' r' hrun
  unfold Parse.mapError at hrun
  split at hrun
  · next hok =>
    obtain ⟨⟨⟩, -⟩ := Prod.mk.inj hrun
    exact hp _ _ _ _ _ hok
  · obtain ⟨⟨⟩, -⟩ := Prod.mk.inj hrun

/-- A method that checks a condition before it goes on. -/
theorem Yields.guard {Q : β → Prop} {c : Prop} [Decidable c] {e : ε} {p : Parse ε σ β}
    (h : ¬ c → Yields Q p) : Yields Q (if c then Parse.fail e else p) := by
  split
  · exact Yields.fail Q e
  · next hc => exact h hc

theorem Yields.mono {P Q : α → Prop} (hp : Yields P p) (h : ∀ a, P a → Q a) : Yields Q p :=
  fun s r a s' r' hrun => h a (hp s r a s' r' hrun)

theorem yields_takeSlice [StreamError ε] (n : Nat) :
    Yields (fun bs => bs.length = n) (takeSlice n : Parse ε σ Bytes) := by
  intro s r bs s' r' h
  unfold takeSlice at h
  split at h
  · simp at h
  · next hle =>
    obtain ⟨⟨⟩, -⟩ := Prod.mk.inj h
    exact List.length_take_of_le (Nat.not_lt.mp hle)

/-! ## no method gives bytes back -/

/-- `p` leaves no more than it was given. -/
def Shrinks (p : Parse ε σ α) : Prop := ∀ s r, (p s r).2.2.length ≤ r.length

namespace Shrinks

theorem pure (a : α) : Shrinks (Pure.pure a : Parse ε σ α) := fun _ _ => Nat.le_refl _

theorem fail (e : ε) : Shrinks (Parse.fail e : Parse ε σ α) := fun _ _ => Nat.le_refl _

theorem update : Shrinks (Parse.update g : Parse ε σ Unit) := fun _ _ => Nat.le_refl _

theorem bind (hp : Shrinks p) (hf : ∀ a, Shrinks (f a)) : Shrinks (p >>= f) := by
  intro s r
  have hle := hp s r
  rcases hrun : p s r with ⟨x, s', r'⟩
  rw [hrun] at hle
  cases x with
  | error e =>
    rw [bind_error hrun]
    exact hle
  | ok a =>
    rw [bind_ok hrun]
    exact Nat.le_trans (hf a s' r') hle

theorem assign [Inhabited α] {set : σ → α → σ} (hp : Shrinks p) : Shrinks (Parse.assign p set) := by
  intro s r
  have hle := hp s r
  unfold Parse.assign
  rcases hrun : p s r with ⟨x, s', r'⟩
  rw [hrun] at hle
  cases x with
  | error e => exact hle
  | ok a => exact hle

theorem onlyIf {p : Parse ε σ Unit} (hp : Shrinks p) : Shrinks (Parse.onlyIf c p) := by
  intro s r
  unfold Parse.onlyIf
  split
  · exact hp s r
  · exact Nat.le_refl _

theorem times {p : Parse ε σ Unit} (hp : Shrinks p) : ∀ n, Shrinks (Parse.times p n)
  | 0 => Shrinks.pure ()
  | n + 1 => hp.bind fun _ => Shrinks.times hp n

theorem nested {zero : τ} {p : Parse ε τ α} (hp : Shrinks p) :
    Shrinks (Parse.nested zero p : Parse ε σ _) := fun _ r => hp zero r

theorem readByte [StreamError ε] : Shrinks (Parse.readByte : Parse ε σ UInt8)
  | _, [] => Nat.le_refl _
  | _, _ :: _ => Nat.le_succ _

theorem readFull [StreamError ε] (n : Nat) : Shrinks (Parse.readFull n : Parse ε σ Bytes) := by
  intro s r
  unfold Parse.readFull
  split
  · simp
  · split
    · exact Nat.zero_le _
    · exact Nat.zero_le _

theorem readInto (n : Nat) : Shrinks (Parse.readInto n : Parse ε σ Bytes) := by
  intro s r
  simp [Parse.readInto]

end Shrinks

end Parse
