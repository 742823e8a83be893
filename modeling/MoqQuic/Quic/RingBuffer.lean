import MoqQuic.Lib.Machine

/-!
# MoqQuic.Quic.RingBuffer

The ring buffer: `internal/utils/ringbuffer`.

`Holds r q` says that the buffer holds the queue `q`: its elements lie behind each other from
`headPos` on, with at most one wrap. A ring of which all slots are taken is `full`, since `headPos`
and `tailPos` are then equal as in an empty one.
-/

namespace MoqQuic.Quic

/-- The ways in which a method panics. -/
inductive RingPanic where
  /-- "pop from an empty queue", "peek from an empty queue" -/
  | emptyQueue
  | indexOutOfRange
  deriving DecidableEq, Repr

structure RingBuffer (α : Type) where
  ring : List α := []
  headPos : Nat := 0
  tailPos : Nat := 0
  full : Bool := false
  deriving DecidableEq, Repr

namespace RingBuffer

section

-- the default element is the zero value of the type
variable {α : Type} [Inhabited α] (r : RingBuffer α)

def init (size : Nat) : RingBuffer α := { r with ring := List.replicate size default }

def len : Nat :=
  if r.full then r.ring.length
  else if r.tailPos ≥ r.headPos then r.tailPos - r.headPos
  else r.tailPos + r.ring.length - r.headPos

def empty : Bool := !r.full && r.headPos == r.tailPos

def grow : Except RingPanic (RingBuffer α) :=
  let newSize := if r.ring.length * 2 = 0 then 1 else r.ring.length * 2
  if r.headPos > r.ring.length then .error .indexOutOfRange
  else .ok {
    ring := r.ring.drop r.headPos ++ r.ring.take r.headPos ++
      List.replicate (newSize - r.ring.length) default
    headPos := 0
    tailPos := r.ring.length
    full := false }

/-- `r.ring[pos] = t`. -/
def put (pos : Nat) (t : α) : Except RingPanic (RingBuffer α) :=
  if pos < r.ring.length then .ok { r with ring := r.ring.set pos t } else .error .indexOutOfRange

/-- The position after this one. -/
def next (pos : Nat) : Nat := if pos + 1 = r.ring.length then 0 else pos + 1

def pushBack (t : α) : Except RingPanic (RingBuffer α) := do
  let r ← if r.full = true ∨ r.ring.length = 0 then r.grow else .ok r
  let r ← r.put r.tailPos t
  let r := { r with tailPos := r.next r.tailPos }
  return if r.tailPos = r.headPos then { r with full := true } else r

def peekFront : Except RingPanic α :=
  if r.empty then .error .emptyQueue
  else match r.ring[r.headPos]? with
    | none => .error .indexOutOfRange
    | some t => .ok t

def popFront : Except RingPanic (α × RingBuffer α) := do
  let t ← r.peekFront
  let r ← put { r with full := false } r.headPos default
  return (t, { r with headPos := r.next r.headPos })

def clear : RingBuffer α := { ring := r.ring.map fun _ => default }

/-! ## calls -/

inductive Call (α : Type) where
  | pushBack (t : α)
  | popFront
  | peekFront
  | len
  | empty
  | clear

inductive Result (α : Type) where
  | nothing
  | element (t : α)
  | number (n : Nat)
  | bool (b : Bool)
  | panic (p : RingPanic)
  deriving DecidableEq, Repr

/-- A call, and what it returns; a call that panics leaves the buffer alone. -/
def step : Call α → Result α × RingBuffer α
  | .pushBack t =>
    match r.pushBack t with
    | .error p => (.panic p, r)
    | .ok r => (.nothing, r)
  | .popFront =>
    match r.popFront with
    | .error p => (.panic p, r)
    | .ok (t, r) => (.element t, r)
  | .peekFront =>
    match r.peekFront with
    | .error p => (.panic p, r)
    | .ok t => (.element t, r)
  | .len => (.number r.len, r)
  | .empty => (.bool r.empty, r)
  | .clear => (.nothing, r.clear)

/-- The queue, as a list of its elements. -/
def queueStep (q : List α) : Call α → Result α × List α
  | .pushBack t => (.nothing, q ++ [t])
  | .popFront =>
    match q with
    | [] => (.panic .emptyQueue, [])
    | t :: q => (.element t, q)
  | .peekFront =>
    match q with
    | [] => (.panic .emptyQueue, [])
    | t :: q => (.element t, t :: q)
  | .len => (.number q.length, q)
  | .empty => (.bool q.isEmpty, q)
  | .clear => (.nothing, [])

/-! ## refinement -/

/-- The position of the element with this number. -/
def index (i : Nat) : Nat :=
  if r.headPos + i < r.ring.length then r.headPos + i else r.headPos + i - r.ring.length

structure Holds (q : List α) : Prop where
  length_le : q.length ≤ r.ring.length
  head : r.headPos < max 1 r.ring.length
  tail : r.tailPos = r.index q.length
  full : r.full = true ↔ 0 < q.length ∧ q.length = r.ring.length
  elements : ∀ i < q.length, r.ring[r.index i]? = q[i]?

end

variable {α : Type} {r : RingBuffer α} {q : List α} (h : r.Holds q)

include h

theorem Holds.empty : r.empty = q.isEmpty := by
  obtain ⟨hle, hhead, htail, hfull, -⟩ := h
  unfold index at htail
  cases q <;> grind [RingBuffer.empty]

theorem Holds.len : r.len = q.length := by
  obtain ⟨hle, hhead, htail, hfull, -⟩ := h
  unfold RingBuffer.len index at *
  grind

theorem Holds.peekFront : r.peekFront = q.head?.elim (.error .emptyQueue) .ok := by
  unfold RingBuffer.peekFront
  rw [h.empty]
  cases q with
  | nil => rfl
  | cons t q =>
    obtain ⟨hle, hhead, -, -, helements⟩ := h
    have ht := helements 0
    grind [index]

/-- An element is put into a free slot. -/
theorem Holds.put (hlt : q.length < r.ring.length) (t : α) :
    ∃ r', r.put r.tailPos t = .ok r' ∧
      Holds { r' with
        tailPos := r'.next r'.tailPos
        full := if r'.next r'.tailPos = r'.headPos then true else r'.full } (q ++ [t]) := by
  obtain ⟨hle, hhead, htail, hfull, helements⟩ := h
  refine ⟨_, if_pos (by grind [index]), ⟨?_, ?_, ?_, ?_, fun i hi => ?_⟩⟩
  all_goals
    simp only [index, next, List.length_append, List.length_singleton, List.length_set] at *
    grind

variable [Inhabited α]

/-- The elements are moved to the start of a larger ring. -/
theorem Holds.grow (hfull : q.length = r.ring.length) :
    ∃ r', r.grow = .ok r' ∧ r'.Holds q ∧ q.length < r'.ring.length := by
  obtain ⟨hle, hhead, htail, -, helements⟩ := h
  have hmove : ∀ i < r.ring.length, ∀ free,
      (r.ring.drop r.headPos ++ r.ring.take r.headPos ++ free)[i]? = r.ring[r.index i]? := by
    intro i hi free
    simp only [List.append_assoc, List.getElem?_append, List.length_drop, List.length_take,
      List.getElem?_drop, List.getElem?_take, index]
    grind
  refine ⟨_, if_neg (by omega), ⟨?_, ?_, ?_, ?_, fun i hi => ?_⟩, ?_⟩
  case refine_5 =>
    rw [← helements i hi, ← hmove i (by omega)]
    congr 1
    grind [index]
  all_goals grind [index]

theorem Holds.pushBack (t : α) : ∃ r', r.pushBack t = .ok r' ∧ r'.Holds (q ++ [t]) := by
  obtain ⟨r₁, hr₁, hgrown, hlt⟩ : ∃ r₁, (if r.full = true ∨ r.ring.length = 0 then r.grow
      else .ok r) = .ok r₁ ∧ r₁.Holds q ∧ q.length < r₁.ring.length := by
    have hle := h.length_le
    have hfull := h.full
    by_cases hgrow : r.full = true ∨ r.ring.length = 0
    · rw [if_pos hgrow]
      exact h.grow (by grind)
    · rw [if_neg hgrow]
      exact ⟨r, rfl, h, by grind⟩
  obtain ⟨r₂, hput, hholds⟩ := hgrown.put hlt t
  refine ⟨_, ?_, hholds⟩
  simp only [RingBuffer.pushBack, bind, Except.bind, pure, Except.pure]
  grind

theorem Holds.popFront {t : α} {q' : List α} (hq : q = t :: q') :
    ∃ r', r.popFront = .ok (t, r') ∧ r'.Holds q' := by
  have hpeek := h.peekFront
  subst hq
  obtain ⟨hle, hhead, htail, hfull, helements⟩ := h
  have hpos : r.headPos < r.ring.length := by grind
  refine ⟨{ r with
    ring := r.ring.set r.headPos default, headPos := r.next r.headPos, full := false },
    ?_, ?_, ?_, ?_, ?_, fun i hi => ?_⟩
  case refine_1 =>
    simp [RingBuffer.popFront, hpeek, bind, Except.bind, RingBuffer.put, hpos, pure, Except.pure,
      next]
  all_goals simp only [index, next, List.length_cons, List.length_set] at *
  case refine_6 =>
    have hi' := helements (i + 1) (by omega)
    grind
  all_goals grind

omit h in
theorem holds_clear (r : RingBuffer α) : r.clear.Holds [] := by
  constructor <;> grind [clear, index]

/-- A call on a buffer and on the queue that it holds. -/
theorem Holds.step (c : Call α) :
    (r.step c).1 = (queueStep q c).1 ∧ (r.step c).2.Holds (queueStep q c).2 := by
  cases c with
  | pushBack t =>
    obtain ⟨r', hr', hholds⟩ := h.pushBack t
    simp [RingBuffer.step, queueStep, hr', hholds]
  | popFront =>
    cases q with
    | nil =>
      simp [RingBuffer.step, queueStep, RingBuffer.popFront, h.peekFront, bind, Except.bind, h]
    | cons t q =>
      obtain ⟨r', hr', hholds⟩ := h.popFront rfl
      simp [RingBuffer.step, queueStep, hr', hholds]
  | peekFront => cases q <;> simp [RingBuffer.step, queueStep, h.peekFront, h]
  | len => simp [RingBuffer.step, queueStep, h.len, h]
  | empty => simp [RingBuffer.step, queueStep, h.empty, h]
  | clear => exact ⟨rfl, holds_clear r⟩

omit h in
/-- **The ring buffer is a queue**: all calls on a ring buffer that is perhaps preallocated return
what they return on a queue. No index is out of range, and `PopFront` and `PeekFront` panic only
when the queue is empty. -/
theorem outputs_eq_queue (size : Option Nat) (calls : List (Call α)) :
    Machine.outputs step ((size.map (init {})).getD {} : RingBuffer α) calls =
      Machine.outputs queueStep [] calls := by
  refine Machine.outputs_eq (R := Holds) (fun r q c h => h.step c) calls ?_
  cases size <;> constructor <;> (simp [init, index]; try omega)

end RingBuffer

end MoqQuic.Quic
