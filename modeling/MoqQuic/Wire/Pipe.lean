import MoqQuic.Lib.Machine
import MoqQuic.Wire.Stream

/-!
# MoqQuic.Wire.Pipe

One producer and one `Pipe` loop over a data stream.

The producer appends objects (`ReadObject`, `WriteObject`) and ends with `Close`
or with a read error other than `io.EOF`.  The loop of `ProcessMOQTStream` and
`NewStream` calls `Pipe` until it returns `io.EOF`; `Pipe` waits on the condition
variable, copies the new objects under the lock, writes them, and reads `IsEOF`
after the lock is released.

The machine `step` interleaves the atomic steps of both: each section under the
mutex, each wait and wakeup, each write, and the read of `IsEOF`.  An action that
is not enabled changes nothing.  The producer starts when the pipe goroutine has
called `WgDone`, which it does before it first takes the lock.
-/

namespace MoqQuic.Wire.Pipe

/-- Where the pipe goroutine is. -/
inductive Pc where
  /-- before `WgDone` -/
  | starting
  /-- before `Lock` and `Wait` -/
  | ready
  /-- in `Wait` -/
  | waiting
  /-- notified, before the lock is taken again -/
  | woken
  /-- the lock released, before `Write` -/
  | copied (data : Bytes)
  /-- before the read of `IsEOF` -/
  | written
  /-- `Pipe` has returned `io.EOF` -/
  | stopped
  deriving DecidableEq, Repr

structure State (O : Type) where
  objectsArr : List O := []
  isEOF : Bool := false
  /-- the producer has closed the stream or has returned on an error -/
  finished : Bool := false
  pc : Pc := .starting
  index : Nat := 0
  output : Bytes := []
  deriving DecidableEq, Repr

inductive Action (O : Type) where
  | append (object : O)
  | close
  /-- `ReadObject` returns an error other than `io.EOF`, and `ProcessObjects` returns -/
  | fail
  | pipe
  deriving DecidableEq, Repr

variable {O : Type}

/-- `Broadcast`. -/
def Pc.wake : Pc → Pc
  | .waiting => .woken
  | pc => pc

/-- The producer runs: `WgWait` has returned and it has not finished. -/
def State.Producing (s : State O) : Prop := s.pc ≠ .starting ∧ s.finished = false

instance (s : State O) : Decidable s.Producing := inferInstanceAs (Decidable (_ ∧ _))

/-- The copy loop of `Pipe`. -/
def copyObjects (enc : O → Bytes) (objects : List O) : Bytes :=
  objects.foldl (fun data object => data ++ enc object) []

/-- One step of the pipe goroutine. -/
def pipeStep (enc : O → Bytes) (s : State O) : State O :=
  match s.pc with
  | .starting => { s with pc := .ready }
  | .ready => { s with pc := .waiting }
  | .waiting => s
  | .woken =>
    { s with
      pc := .copied (copyObjects enc (s.objectsArr.drop s.index))
      index := max s.index s.objectsArr.length }
  | .copied data => { s with pc := .written, output := s.output ++ data }
  | .written => if s.isEOF then { s with pc := .stopped } else { s with pc := .ready }
  | .stopped => s

def step (enc : O → Bytes) (s : State O) : Action O → State O
  | .append object =>
    if s.Producing then
      { s with objectsArr := s.objectsArr ++ [object], pc := s.pc.wake }
    else s
  | .close => if s.Producing then { s with isEOF := true, finished := true, pc := s.pc.wake } else s
  | .fail => if s.Producing then { s with finished := true } else s
  | .pipe => pipeStep enc s

/-! ## the producer is the stream's own methods -/

/-- The state shows the objects and the end mark of the stream. -/
structure State.Shows (s : State Object) (st : MOQTStream) : Prop where
  objectsArr : s.objectsArr = st.objectsArr
  isEOF : s.isEOF = st.isEOF

/-- The action that a call of `ReadObject` with this result is. -/
def readAction : Except WireError (Nat × Object) → Action Object
  | .ok (_, object) => .append object
  | .error .eof => .close
  | .error _ => .fail

section Producer

variable {enc : Object → Bytes} {s : State Object} {st : MOQTStream}

theorem shows_writeObject (object : Object) (hp : s.Producing) (h : s.Shows st) :
    (step enc s (.append object)).Shows (st.writeObject object) := by
  obtain ⟨hobjects, heof⟩ := h
  simp only [step, if_pos hp]
  cases st <;> exact ⟨congrArg (· ++ [object]) hobjects, heof⟩

theorem shows_close (hp : s.Producing) (h : s.Shows st) : (step enc s .close).Shows st.close := by
  obtain ⟨hobjects, heof⟩ := h
  simp only [step, if_pos hp]
  cases st <;> exact ⟨hobjects, rfl⟩

theorem shows_fail (hp : s.Producing) (h : s.Shows st) : (step enc s .fail).Shows st := by
  simp only [step, if_pos hp]
  exact ⟨h.objectsArr, h.isEOF⟩

/-- **Refinement**: a call of `ReadObject` is a step of the machine. -/
theorem shows_readObject (hp : s.Producing) (h : s.Shows st) :
    (step enc s (readAction st.readObject.1)).Shows st.readObject.2 := by
  cases st with
  | group gs =>
    simp only [MOQTStream.readObject, GroupStream.readObject]
    cases gs.reader with
    | none => exact shows_fail hp h
    | some r =>
      dsimp only
      generalize Object.parse {} r = parsed
      obtain ⟨x, object, r'⟩ := parsed
      have h' : s.Shows (.group { gs with reader := some r' }) := ⟨h.objectsArr, h.isEOF⟩
      rcases x with e | ⟨⟩
      · cases e with
        | eof => exact shows_close hp h'
        | _ => exact shows_fail hp h'
      · exact shows_writeObject object hp h'
  | track ts =>
    simp only [MOQTStream.readObject, TrackStream.readObject]
    cases ts.reader with
    | none => exact shows_fail hp h
    | some r =>
      dsimp only
      generalize TrackStream.parseObject {} r = parsed
      obtain ⟨x, object, r'⟩ := parsed
      have h' : s.Shows (.track { ts with reader := some r' }) := ⟨h.objectsArr, h.isEOF⟩
      rcases x with e | groupid
      · cases e with
        | eof => exact shows_close hp h'
        | _ => exact shows_fail hp h'
      · exact shows_writeObject object hp h'

end Producer

/-! ## what the loop has written -/

/-- The bytes copied and not yet written. -/
def Pc.pending : Pc → Bytes
  | .copied data => data
  | _ => []

/-- `Pipe` has copied, and the next read of `IsEOF` belongs to that copy. -/
def Pc.Past : Pc → Prop
  | .copied _ | .written | .stopped => True
  | _ => False

theorem Pc.pending_wake (pc : Pc) : pc.wake.pending = pc.pending := by cases pc <;> rfl

theorem Pc.past_wake (pc : Pc) : pc.wake.Past ↔ pc.Past := by cases pc <;> exact Iff.rfl

theorem Pc.wake_eq_starting {pc : Pc} (h : pc.wake = .starting) : pc = .starting := by
  cases pc <;> simp_all [Pc.wake]

theorem Pc.wake_eq_stopped {pc : Pc} (h : pc.wake = .stopped) : pc = .stopped := by
  cases pc <;> simp_all [Pc.wake]

/-- The bytes written and copied are those of the objects up to the index, only
the producer closes the stream, and it starts after the pipe goroutine. -/
structure State.Inv (enc : O → Bytes) (s : State O) : Prop where
  started : s.finished = true → s.pc ≠ .starting
  index_le : s.index ≤ s.objectsArr.length
  finished : s.isEOF = true → s.finished = true
  stopped : s.pc = .stopped → s.isEOF = true
  bytes : s.output ++ s.pc.pending = (s.objectsArr.take s.index).flatMap enc

variable {enc : O → Bytes} {s : State O}

theorem copyObjects_eq (objects : List O) : copyObjects enc objects = objects.flatMap enc := by
  have hacc : ∀ (objects : List O) (data : Bytes),
      objects.foldl (fun data object => data ++ enc object) data = data ++ objects.flatMap enc := by
    intro objects
    induction objects with
    | nil => simp
    | cons o os ih =>
      intro data
      rw [List.foldl_cons, ih, List.flatMap_cons, List.append_assoc]
  simpa [copyObjects] using hacc objects []

theorem inv_init (enc : O → Bytes) : State.Inv enc ({} : State O) :=
  ⟨fun h => by contradiction, Nat.le_refl 0, id, fun h => by contradiction, rfl⟩

theorem inv_pipeStep (hi : s.Inv enc) : (pipeStep enc s).Inv enc := by
  have hi' := hi
  obtain ⟨hstart, hle, hfin, hstop, hbytes⟩ := hi
  unfold pipeStep
  cases hpc : s.pc with
  | starting | ready =>
    exact ⟨fun _ => by simp, hle, hfin, fun h => by contradiction,
      by simpa [hpc, Pc.pending] using hbytes⟩
  | waiting => exact hi'
  | woken =>
    have hmax : max s.index s.objectsArr.length = s.objectsArr.length := Nat.max_eq_right hle
    simp only [hpc, Pc.pending, List.append_nil] at hbytes
    refine ⟨fun _ => by simp, by simp [hmax], hfin, fun h => by contradiction, ?_⟩
    simp only [Pc.pending, hmax, copyObjects_eq, hbytes, List.take_length]
    rw [← List.flatMap_append, List.take_append_drop]
  | copied data =>
    rw [hpc, Pc.pending] at hbytes
    exact ⟨fun _ => by simp, hle, hfin, fun h => by contradiction,
      by simpa [Pc.pending] using hbytes⟩
  | written =>
    simp only [hpc, Pc.pending] at hbytes
    dsimp only
    split
    · next heof => exact ⟨fun _ => by simp, hle, hfin, fun _ => heof, hbytes⟩
    · exact ⟨fun _ => by simp, hle, hfin, fun h => by contradiction, hbytes⟩
  | stopped => exact hi'

variable (a : Action O)

theorem inv_step (hi : s.Inv enc) : (step enc s a).Inv enc := by
  cases a with
  | append object =>
    simp only [step]
    split
    · refine ⟨fun h => mt Pc.wake_eq_starting (hi.started h), ?_, hi.finished,
        fun h => hi.stopped (Pc.wake_eq_stopped h), ?_⟩
      · have hle := hi.index_le
        simp only [List.length_append, List.length_singleton]
        omega
      · rw [Pc.pending_wake, hi.bytes, List.take_append_of_le_length hi.index_le]
    · exact hi
  | close =>
    simp only [step]
    split
    · next hp =>
      refine ⟨fun _ => mt Pc.wake_eq_starting hp.1, hi.index_le, fun _ => rfl, fun _ => rfl, ?_⟩
      rw [Pc.pending_wake]
      exact hi.bytes
    · exact hi
  | fail =>
    simp only [step]
    split
    · next hp => exact ⟨fun _ => hp.1, hi.index_le, fun _ => rfl, hi.stopped, hi.bytes⟩
    · exact hi
  | pipe => exact inv_pipeStep hi

/-! ## nothing is left behind -/

/-- Once the stream is closed, a loop that has already copied has copied all. -/
def State.Kept (s : State O) : Prop :=
  s.isEOF = true → s.pc.Past → s.index = s.objectsArr.length

/-- `Close` does not fall between a copy that left objects behind and the read of
`IsEOF` that follows it. -/
def ClosesSafely (s : State O) : Action O → Prop
  | .close => s.Producing → s.pc.Past → s.index = s.objectsArr.length
  | _ => True

/-- The producer runs only while the stream is open. -/
theorem State.Inv.isOpen (hi : s.Inv enc) (hp : s.Producing) : s.isEOF = false := by
  cases heof : s.isEOF with
  | false => rfl
  | true =>
    have hfin := hi.finished heof
    rw [hp.2] at hfin
    contradiction

theorem kept_pipeStep (hi : s.Inv enc) (hk : s.Kept) : (pipeStep enc s).Kept := by
  unfold pipeStep
  cases hpc : s.pc with
  | starting | ready => exact fun _ h => h.elim
  | waiting => exact hk
  | woken => exact fun _ _ => Nat.max_eq_right hi.index_le
  | copied data => exact fun heof _ => hk heof (by rw [hpc]; trivial)
  | written =>
    dsimp only
    split
    · exact fun heof _ => hk heof (by rw [hpc]; trivial)
    · exact fun _ h => h.elim
  | stopped => exact hk

theorem kept_step_iff (hi : s.Inv enc) (hk : s.Kept) : (step enc s a).Kept ↔ ClosesSafely s a := by
  cases a with
  | append object =>
    simp only [step, ClosesSafely, iff_true]
    split
    · next hp =>
      intro heof
      rw [show s.isEOF = false from hi.isOpen hp] at heof
      contradiction
    · exact hk
  | close =>
    simp only [step, ClosesSafely]
    split
    · next hp =>
      simp only [State.Kept, true_implies, Pc.past_wake, hp]
    · next hp => exact ⟨fun _ h => absurd h hp, fun _ => hk⟩
  | fail =>
    simp only [step, ClosesSafely, iff_true]
    split
    · exact hk
    · exact hk
  | pipe => exact ⟨fun _ => trivial, fun _ => kept_pipeStep hi hk⟩

/-- Objects left behind are never copied: the producer has finished, and the loop
goes on to read `IsEOF`. -/
theorem lost_step (hi : s.Inv enc) (hl : ¬ s.Kept) : ¬ (step enc s a).Kept := by
  simp only [State.Kept, Classical.not_imp] at hl
  obtain ⟨heof, hpast, hne⟩ := hl
  have hnot : ¬ s.Producing := fun hp => by
    rw [hi.isOpen hp] at heof
    contradiction
  cases a with
  | append | close | fail =>
    simp only [step, if_neg hnot]
    exact fun h => hne (h heof hpast)
  | pipe =>
    simp only [step, pipeStep]
    cases hpc : s.pc with
    | copied data => exact fun h => hne (h heof trivial)
    | written =>
      rw [if_pos heof]
      exact fun h => hne (h heof trivial)
    | stopped => exact fun h => hne (h heof hpast)
    | starting | ready | waiting | woken =>
      rw [hpc] at hpast
      exact hpast.elim

theorem flatMap_take_eq_iff (henc : ∀ o, enc o ≠ []) {objects : List O} {n : Nat}
    (hn : n ≤ objects.length) :
    (objects.take n).flatMap enc = objects.flatMap enc ↔ n = objects.length := by
  constructor
  · intro h
    have hall : (objects.take n).flatMap enc ++ (objects.drop n).flatMap enc =
        objects.flatMap enc := by
      rw [← List.flatMap_append, List.take_append_drop]
    rw [h, List.append_right_eq_self, List.flatMap_eq_nil_iff] at hall
    cases hdrop : objects.drop n with
    | nil =>
      rw [List.drop_eq_nil_iff] at hdrop
      omega
    | cons o os =>
      rw [hdrop] at hall
      exact absurd (hall o List.mem_cons_self) (henc o)
  · rintro rfl
    rw [List.take_length]

/-- **Delivery, exactly**: a loop that has stopped has written the encodings of
all objects, in order and each once, if and only if the producer did not close
between a copy that left objects behind and the read of `IsEOF` after it. -/
theorem stopped_output_iff (henc : ∀ o, enc o ≠ []) (acts : List (Action O))
    (hstop : (Machine.run (step enc) {} acts).pc = .stopped) :
    (Machine.run (step enc) {} acts).output =
        (Machine.run (step enc) {} acts).objectsArr.flatMap enc ↔
      Machine.EachStep (step enc) ClosesSafely {} acts := by
  have hinit := inv_init enc
  have hkept : State.Kept ({} : State O) := fun h => by contradiction
  have hI : ∀ (s : State O) (a : Action O), s.Inv enc → (step enc s a).Inv enc :=
    fun _ a hi => inv_step a hi
  have hinv := Machine.states_invariant hI acts _ hinit _ (Machine.run_mem_states _ acts)
  rw [← Machine.forall_states_iff (fun s a hi _ => hI s a hi)
      (fun _ a hi hk => kept_step_iff a hi hk) acts _ hinit hkept,
    Machine.forall_states_iff_run hI (fun _ a hi hl => lost_step a hi hl) acts _ hinit]
  generalize Machine.run (step enc) {} acts = s at hstop hinv ⊢
  have hbytes := hinv.bytes
  rw [hstop] at hbytes
  simp only [Pc.pending, List.append_nil] at hbytes
  rw [hbytes, flatMap_take_eq_iff henc hinv.index_le]
  simp only [State.Kept, hinv.stopped hstop, hstop, Pc.Past, true_implies]

/-- **Delivery on data streams, exactly**: on a group or track stream, a loop that
has stopped with `io.EOF` has written exactly the objects appended before `Close`
if and only if `Close` did not fall between a copy that left objects behind and
the read of `IsEOF` after it. -/
theorem delivered_iff_closesSafely (st : MOQTStream) (acts : List (Action WireObject))
    (hstop : (Machine.run (step st.encode) {} acts).pc = .stopped) :
    (Machine.run (step st.encode) {} acts).output =
        (Machine.run (step st.encode) {} acts).objectsArr.flatMap st.encode ↔
      Machine.EachStep (step st.encode) ClosesSafely {} acts :=
  stopped_output_iff st.encode_ne_nil acts hstop

def object1 : WireObject := ⟨{ id := 1, payload := [7] }, by decide⟩

def object2 : WireObject := ⟨{ id := 2, payload := [8] }, by decide⟩

/-- The loop copies an object and waits again before the producer closes. -/
def closeWhileWaiting : List (Action WireObject) :=
  [.pipe, .pipe, .append object1, .pipe, .pipe, .pipe, .pipe, .close, .pipe, .pipe, .pipe]

theorem delivered_closeWhileWaiting :
    (Machine.run (step (MOQTStream.group {}).encode) {} closeWhileWaiting).output = [1, 1, 7] ∧
      Machine.EachStep (step (MOQTStream.group {}).encode) ClosesSafely {} closeWhileWaiting := by
  refine ⟨by decide, ?_⟩
  exact (delivered_iff_closesSafely (.group {}) closeWhileWaiting (by decide)).mp (by decide)

/-- The producer appends a second object and closes after the loop has copied the
first. -/
def closeAfterCopy : List (Action WireObject) :=
  [.pipe, .pipe, .append object1, .pipe, .append object2, .close, .pipe, .pipe]

/-- **Counterexample**: the loop stops with `io.EOF` and the second object has not
been written. -/
theorem closeAfterCopy_loses_object :
    (Machine.run (step (MOQTStream.group {}).encode) {} closeAfterCopy).pc = .stopped ∧
      (Machine.run (step (MOQTStream.group {}).encode) {} closeAfterCopy).output ≠
        (Machine.run (step (MOQTStream.group {}).encode) {} closeAfterCopy).objectsArr.flatMap
          (MOQTStream.group {}).encode := by
  decide

/-! ## lost wakeups -/

/-- The pipe goroutine is blocked in `Wait` and the producer, the only one to
broadcast, has finished. -/
def State.Lost (s : State O) : Prop := s.pc = .waiting ∧ s.finished = true

instance (s : State O) : Decidable s.Lost := inferInstanceAs (Decidable (_ ∧ _))

/-- The state is not lost, and the pipe goroutine on its own does not run into a
lost one. -/
def State.Served (enc : O → Bytes) (s : State O) : Prop :=
  ∀ n, ¬ (Machine.run (step enc) s (List.replicate n .pipe)).Lost

/-- The producer ends by `Close`, and not while the pipe goroutine is on its way
to `Wait`. -/
def EndsInTime (s : State O) : Action O → Prop
  | .close => s.Producing → s.pc ≠ .ready
  | .fail => ¬ s.Producing
  | _ => True

/-- The loop will be in `Wait` with the producer gone: it is there, it is about to
be, or the stream was never closed and it will come round. -/
def State.Doomed (s : State O) : Prop :=
  s.finished = true ∧ (s.pc = .ready ∨ s.pc = .waiting ∨ (s.isEOF = false ∧ s.pc ≠ .stopped))

theorem doomed_pipeStep (hi : s.Inv enc) (hd : ¬ s.Doomed) : ¬ (pipeStep enc s).Doomed := by
  have hstart := hi.started
  unfold State.Doomed pipeStep at *
  cases hpc : s.pc with
  | written =>
    dsimp only
    split <;> simp_all
  | _ => simp_all

theorem doomed_step_iff (hi : s.Inv enc) (hd : ¬ s.Doomed) :
    ¬ (step enc s a).Doomed ↔ EndsInTime s a := by
  cases a with
  | append object =>
    simp only [step, EndsInTime, iff_true]
    split
    · next hp =>
      rintro ⟨hfin, -⟩
      rw [show s.finished = false from hp.2] at hfin
      contradiction
    · exact hd
  | close =>
    simp only [step, EndsInTime]
    split
    · next hp =>
      simp only [State.Doomed, hp, true_and, true_implies, Bool.true_eq_false, false_and, or_false]
      cases s.pc <;> simp [Pc.wake]
    · next hp => exact ⟨fun _ h => absurd h hp, fun _ => hd⟩
  | fail =>
    simp only [step, EndsInTime]
    split
    · next hp =>
      have hopen := hi.isOpen hp
      have hrun : s.pc ≠ .stopped := fun h => by
        rw [hi.stopped h] at hopen
        contradiction
      simp [State.Doomed, hopen, hrun, hp]
    · next hp => exact ⟨fun _ => hp, fun _ => hd⟩
  | pipe => exact ⟨fun _ => trivial, fun _ => doomed_pipeStep hi hd⟩

/-- A doomed loop runs into `Wait` in at most four steps. -/
theorem lost_of_doomed (hi : s.Inv enc) (hd : s.Doomed) : ¬ s.Served enc := by
  obtain ⟨hfin, hwhere⟩ := hd
  have hstart := hi.started hfin
  intro h
  cases hpc : s.pc with
  | starting => exact hstart hpc
  | waiting => exact h 0 ⟨hpc, hfin⟩
  | ready => exact h 1 (by simp [State.Lost, List.replicate_succ, step, pipeStep, hpc, hfin])
  | written =>
    have hopen : s.isEOF = false := by simpa [hpc] using hwhere
    exact h 2 (by simp [State.Lost, List.replicate_succ, step, pipeStep, hpc, hopen, hfin])
  | copied data =>
    have hopen : s.isEOF = false := by simpa [hpc] using hwhere
    exact h 3 (by simp [State.Lost, List.replicate_succ, step, pipeStep, hpc, hopen, hfin])
  | woken =>
    have hopen : s.isEOF = false := by simpa [hpc] using hwhere
    exact h 4 (by simp [State.Lost, List.replicate_succ, step, pipeStep, hpc, hopen, hfin])
  | stopped => simp [hpc] at hwhere

theorem served_iff (hi : s.Inv enc) : s.Served enc ↔ ¬ s.Doomed := by
  constructor
  · exact fun h hd => lost_of_doomed hi hd h
  · intro hd n
    have hkeep : ∀ (n : Nat) (s : State O), s.Inv enc → ¬ s.Doomed →
        ¬ (Machine.run (step enc) s (List.replicate n .pipe)).Doomed := by
      intro n
      induction n with
      | zero => exact fun _ _ hd => hd
      | succ n ih => exact fun s hi hd => ih _ (inv_pipeStep hi) (doomed_pipeStep hi hd)
    rintro ⟨hpc, hfin⟩
    exact hkeep n s hi hd ⟨hfin, Or.inr (Or.inl hpc)⟩

/-- **Wakeups, exactly**: in every state of a run the pipe goroutine is served, so
that it is never blocked in `Wait` with the producer gone, if and only if the
producer never ends by an error and never closes while the pipe goroutine is on
its way to `Wait`. -/
theorem served_iff_endsInTime (st : MOQTStream) (acts : List (Action WireObject)) :
    (∀ s ∈ Machine.states (step st.encode) {} acts, s.Served st.encode) ↔
      Machine.EachStep (step st.encode) EndsInTime {} acts := by
  have hI : ∀ (s : State WireObject) (a : Action WireObject), s.Inv st.encode →
      (step st.encode s a).Inv st.encode := fun _ a hi => inv_step a hi
  have hinit := inv_init st.encode
  have hstart : ¬ State.Doomed ({} : State WireObject) := fun h => by
    have := h.1
    contradiction
  have hinv := Machine.states_invariant hI acts _ hinit
  rw [← Machine.forall_states_iff (fun s a hi _ => hI s a hi)
    (fun _ a hi hd => doomed_step_iff a hi hd) acts _ hinit hstart]
  constructor
  · exact fun h s hs => (served_iff (hinv s hs)).mp (h s hs)
  · exact fun h s hs => (served_iff (hinv s hs)).mpr (h s hs)

/-- The producer closes between the `WgDone` of the pipe goroutine and its first
`Wait`. -/
def closeBeforeWait : List (Action WireObject) := [.pipe, .close, .pipe]

/-- **Counterexample**: the pipe goroutine waits on a stream that is closed
already. -/
theorem closeBeforeWait_loses_wakeup :
    (Machine.run (step (MOQTStream.group {}).encode) {} closeBeforeWait).Lost ∧
      ¬ ∀ s ∈ Machine.states (step (MOQTStream.group {}).encode) {} closeBeforeWait,
        s.Served (MOQTStream.group {}).encode := by
  have hlost : (Machine.run (step (MOQTStream.group {}).encode) {} closeBeforeWait).Lost := by decide
  exact ⟨hlost, fun h => h _ (Machine.run_mem_states _ _) 0 hlost⟩

/-! ## the relay -/

theorem shows_pipe {enc : Object → Bytes} {s : State Object} {st : MOQTStream} (h : s.Shows st) :
    (pipeStep enc s).Shows st := by
  unfold pipeStep
  grind [State.Shows]

/-- One goroutine reads the objects of a stream until an error, and another one pipes them. -/
def relay (enc : Object → Bytes) (p : MOQTStream × State Object) : Bool → MOQTStream × State Object
  | true =>
    if p.2.Producing then (p.1.readObject.2, step enc p.2 (readAction p.1.readObject.1)) else p
  | false => (p.1, step enc p.2 .pipe)

/-- **Forwarding**: whatever turns the goroutines take, what was written is the start of the
encoding of the objects that were read. -/
theorem relay_output_isPrefix (enc : Object → Bytes) {st : MOQTStream} (hobjects : st.objectsArr = [])
    (hopen : st.isEOF = false) (turns : List Bool) :
    (Machine.run (relay enc) (st, {}) turns).2.output <+:
      (Machine.run (relay enc) (st, {}) turns).1.objectsArr.flatMap enc := by
  have hrun : ∀ p ∈ Machine.states (relay enc) (st, {}) turns, p.2.Inv enc ∧ p.2.Shows p.1 := by
    refine Machine.states_invariant ?_ turns _ ⟨inv_init enc, hobjects.symm, hopen.symm⟩
    rintro p turn ⟨hi, hs⟩
    cases turn with
    | true =>
      by_cases hp : p.2.Producing
      · simp only [relay, if_pos hp]
        exact ⟨inv_step _ hi, shows_readObject hp hs⟩
      · simpa only [relay, if_neg hp] using And.intro hi hs
    | false => exact ⟨inv_pipeStep hi, shows_pipe hs⟩
  obtain ⟨hi, hs⟩ := hrun _ (Machine.run_mem_states _ _)
  generalize Machine.run (relay enc) (st, {}) turns = p at hi hs ⊢
  have hwritten : p.2.output <+: (p.2.objectsArr.take p.2.index).flatMap enc := by simp [← hi.bytes]
  rw [← hs.objectsArr]
  exact hwritten.trans ((List.take_prefix _ _).flatMap enc)

theorem relay_output_group :
    let p := Machine.run (relay Object.payload) (.group { reader := some [7, 1, 5] }, {})
      [false, false, true, false, false]
    p.2.output = [5] ∧ p.2.output <+: p.1.objectsArr.flatMap Object.payload :=
  ⟨by decide, relay_output_isPrefix _ rfl rfl _⟩

end MoqQuic.Wire.Pipe
