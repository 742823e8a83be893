import MoqQuic.Quic.StreamsMap.Incoming.Accounting

/-!
# MoqQuic.Quic.StreamsMap.Incoming.Wakeup

Goroutines that call `AcceptStream` while the connection opens streams.

The steps are finer than the sections of the calls: draining the channel, a round of `AcceptStream`
under the mutex, receiving from the channel, and each round of the loop that opens streams, which
ends with a send to the channel. While the connection opens streams it has the mutex. The goroutines
are the elements of a list, in any number.
-/

namespace MoqQuic.Quic

open Machine

variable {τ : Type}

/-- Where a call of `AcceptStream` is. -/
inductive Acceptor where
  /-- about to drain the channel -/
  | drains
  /-- about to take the mutex and look for the next stream -/
  | checks
  /-- waiting for the channel -/
  | blocked
  | done
  deriving DecidableEq, Repr

/-- Where the connection is with its call of `GetOrOpenStream`. -/
inductive Opener where
  | idle
  /-- about to take the read lock -/
  | looks (id : StreamID)
  /-- about to take the write lock -/
  | locks (id : StreamID)
  /-- in the loop, with the write lock -/
  | opens (newNum id : StreamID)
  deriving DecidableEq, Repr

structure AcceptSystem (τ : Type) where
  map : IncomingStreamsMap τ
  acceptors : List Acceptor := []
  opener : Opener := .idle

inductive AcceptOp where
  /-- a goroutine calls `AcceptStream` -/
  | call
  /-- the goroutine at a position takes its next step -/
  | acceptor (i : Nat)
  /-- the context of the goroutine at a position is cancelled while it waits -/
  | cancel (i : Nat)
  | getOrOpenStream (id : StreamID)
  /-- the connection takes its next step -/
  | opener
  | deleteStream (id : StreamID)
  deriving DecidableEq, Repr

namespace AcceptSystem

def new (streamType : StreamType) (maxStreams : Nat) (pers : Perspective) : AcceptSystem τ where
  map := newIncomingStreamsMap streamType maxStreams pers

/-- The connection has the write lock. -/
def locked (s : AcceptSystem τ) : Bool :=
  match s.opener with
  | .opens _ _ => true
  | _ => false

/-- The next step of a call of `AcceptStream`. -/
def acceptorStep (s : AcceptSystem τ) (i : Nat) : Acceptor → AcceptSystem τ
  | .drains => { s with
      map := { s.map with newStreamChan := false }
      acceptors := s.acceptors.set i .checks }
  | .checks =>
    if s.locked then s
    else
      match s.map.acceptStream with
      | (.waits, map, _) => { s with map := map, acceptors := s.acceptors.set i .blocked }
      | (_, map, _) => { s with map := map, acceptors := s.acceptors.set i .done }
  | .blocked =>
    if s.map.newStreamChan then { s with
      map := { s.map with newStreamChan := false }
      acceptors := s.acceptors.set i .checks }
    else s
  | .done => s

/-- The next step of `GetOrOpenStream`. -/
def openerStep (newStream : StreamID → τ) (s : AcceptSystem τ) : AcceptSystem τ :=
  match s.opener with
  | .idle => s
  | .looks id =>
    match s.map.lookupStream id with
    | .opens => { s with opener := .locks id }
    | _ => { s with opener := .idle }
  | .locks id => { s with opener := .opens s.map.nextStreamToOpen id }
  | .opens newNum id =>
    if newNum ≤ id then
      { s with map := s.map.openNext newStream newNum, opener := .opens (newNum + 4) id }
    else { s with map := { s.map with nextStreamToOpen := id + 4 }, opener := .idle }

def step (newStream : StreamID → τ) (s : AcceptSystem τ) : AcceptOp → AcceptSystem τ
  | .call => { s with acceptors := s.acceptors ++ [.drains] }
  | .acceptor i =>
    match s.acceptors[i]? with
    | none => s
    | some pc => s.acceptorStep i pc
  | .cancel i =>
    if s.acceptors[i]? = some .blocked then { s with acceptors := s.acceptors.set i .done } else s
  | .getOrOpenStream id => if s.opener = .idle then { s with opener := .looks id } else s
  | .opener => s.openerStep newStream
  | .deleteStream id =>
    if s.locked then s
    else
      match s.map.deleteStream id with
      | .error _ => s
      | .ok (map, _) => { s with map := map }

/-- A wakeup was lost: a stream is waiting to be accepted, and so are calls of `AcceptStream`, but
none of them is going to run. -/
def Lost (s : AcceptSystem τ) : Prop :=
  (∃ id ∈ s.map.streams.keys, s.map.nextStreamToAccept ≤ id) ∧
  .blocked ∈ s.acceptors ∧ (∀ pc ∈ s.acceptors, pc = .blocked ∨ pc = .done) ∧
  s.map.newStreamChan = false ∧ s.opener = .idle

instance (s : AcceptSystem τ) : Decidable s.Lost := by
  unfold Lost
  infer_instance

/-! ## two calls of `AcceptStream` -/

/-- Two goroutines wait when two streams are opened: the channel holds one signal for both. -/
def twoAcceptors : List AcceptOp :=
  [.call, .acceptor 0, .acceptor 0, .call, .acceptor 1, .acceptor 1,
    .getOrOpenStream 4, .opener, .opener, .opener, .opener, .opener, .acceptor 0, .acceptor 0]

/-- IDs are of the type of the map, and `AcceptStream` is called once the call before has returned. -/
def Allowed (first : StreamID) (s : AcceptSystem τ) : AcceptOp → Prop
  | .call => ∀ pc ∈ s.acceptors, pc = .done
  | .getOrOpenStream id => first ≤ id ∧ (id - first) % 4 = 0
  | _ => True

instance (first : StreamID) (s : AcceptSystem τ) (op : AcceptOp) : Decidable (s.Allowed first op) := by
  cases op <;> unfold Allowed <;> infer_instance

variable {s : AcceptSystem τ} {newStream : StreamID → τ} {first : Int} {k o : Nat}

/-- Where the connection is, when `o` streams are in the map or were. -/
def OpenerAt (first : Int) (o : Nat) (nextStreamToOpen : Int) : Opener → Prop
  | .idle => nextStreamToOpen = first + 4 * o
  | .looks id => nextStreamToOpen = first + 4 * o ∧ ∃ j : Nat, id = first + 4 * j
  | .locks id => nextStreamToOpen = first + 4 * o ∧ ∃ j : Nat, o ≤ j ∧ id = first + 4 * j
  | .opens newNum id => newNum = first + 4 * o ∧ ∃ j : Nat, o ≤ j + 1 ∧ id = first + 4 * j

/-- The streams of the map: `k` were accepted and `o` were opened. -/
structure Contiguous (first : Int) (k o : Nat) (m : IncomingStreamsMap τ) : Prop where
  toAccept : m.nextStreamToAccept = first + 4 * k
  le : k ≤ o
  opened : ∀ x ∈ m.streams, ∃ i : Nat, i < o ∧ x = first + 4 * i
  waiting : ∀ i : Nat, k ≤ i → i < o → first + 4 * i ∈ m.streams
  notClosed : m.closeErr = false

/-- At most one call of `AcceptStream` is running. -/
def Single (acceptors : List Acceptor) : Prop :=
  ∃ i : Nat, ∀ (j : Nat) pc, acceptors[j]? = some pc → pc ≠ .done → j = i

/-- What holds in every state. -/
structure Signals (first : Int) (s : AcceptSystem τ) : Prop where
  contiguous : ∃ k o, Contiguous first k o s.map ∧ OpenerAt first o s.map.nextStreamToOpen s.opener
  single : Single s.acceptors
  /-- a call that waits has a signal if the next stream is there -/
  signal : .blocked ∈ s.acceptors → s.map.nextStreamToAccept ∈ s.map.streams →
    s.map.newStreamChan = true

variable {m : IncomingStreamsMap τ}

/-- If a stream is waiting, the next one is. -/
theorem Contiguous.next_mem (h : Contiguous first k o m) {id : StreamID} (hid : id ∈ m.streams)
    (hle : m.nextStreamToAccept ≤ id) : m.nextStreamToAccept ∈ m.streams := by
  have htoAccept := h.toAccept
  obtain ⟨i, hi, rfl⟩ := h.opened id hid
  rw [htoAccept]
  exact h.waiting k le_rfl (by lia)

/-- **No lost wakeup** in such a state. -/
theorem Signals.not_lost (h : Signals first s) : ¬ Lost s := by
  intro hlost
  obtain ⟨⟨id, hid, hle⟩, hblocked, -, hempty, -⟩ := hlost
  obtain ⟨k, o, hcont, -⟩ := h.contiguous
  have hsignal := h.signal hblocked (hcont.next_mem hid hle)
  rw [hempty] at hsignal
  cases hsignal

/-! ## the steps of the map -/

theorem Contiguous.acceptStream (h : Contiguous first k o m) :
    (m.nextStreamToAccept ∉ m.streams ∧ m.acceptStream = (.waits, m, none)) ∨
    ∃ stream m' frame, m.acceptStream = (.returned m.nextStreamToAccept stream, m', frame) ∧
      Contiguous first (k + 1) o m' ∧ m'.nextStreamToOpen = m.nextStreamToOpen := by
  cases hentry : m.streams.lookup m.nextStreamToAccept with
  | none =>
    refine .inl ⟨AList.lookup_eq_none.mp hentry, ?_⟩
    rw [IncomingStreamsMap.acceptStream, h.notClosed, hentry]
    rfl
  | some entry =>
    have htoAccept := h.toAccept
    have hmem := AList.lookup_isSome.mp (Option.isSome_of_eq_some hentry)
    obtain ⟨i, hi, heq⟩ := h.opened _ hmem
    have hk : k + 1 ≤ o := by lia
    have hnext : m.nextStreamToAccept + 4 = first + 4 * (k + 1 : Nat) := by lia
    right
    cases hdelete : entry.shouldDelete with
    | false =>
      refine ⟨_, _, _, IncomingStreamsMap.acceptStream_kept h.notClosed hentry hdelete, ?_, rfl⟩
      exact { h with
        toAccept := hnext
        le := hk
        waiting := fun i hi => h.waiting i (by omega) }
    | true =>
      obtain ⟨frame, hdel⟩ := IncomingStreamsMap.deleteStream_accepted
        (m := { m with nextStreamToAccept := m.nextStreamToAccept + 4 })
        (Int.lt_add_of_pos_right _ (by decide)) hentry
      refine ⟨_, _, _,
        IncomingStreamsMap.acceptStream_deleted h.notClosed hentry hdelete hdel, ?_, rfl⟩
      refine ⟨hnext, hk, fun x hx => ?_, fun i hi hio => ?_, h.notClosed⟩
      · exact h.opened x (AList.mem_erase.mp hx).2
      · exact AList.mem_erase.mpr ⟨by lia, h.waiting i (by omega) hio⟩

theorem Contiguous.deleteStream {m m' : IncomingStreamsMap τ} (h : Contiguous first k o m)
    {id : StreamID} {frame : Option MaxStreamsFrame} (heq : m.deleteStream id = .ok (m', frame)) :
    Contiguous first k o m' ∧ m'.nextStreamToOpen = m.nextStreamToOpen ∧
      m'.newStreamChan = m.newStreamChan ∧
      (m'.nextStreamToAccept ∈ m'.streams → m.nextStreamToAccept ∈ m.streams) := by
  have htoAccept := h.toAccept
  cases hentry : m.streams.lookup id with
  | none =>
    rw [IncomingStreamsMap.deleteStream, hentry] at heq
    cases heq
  | some entry =>
    have hmem := AList.lookup_isSome.mp (Option.isSome_of_eq_some hentry)
    by_cases hid : id < m.nextStreamToAccept
    · obtain ⟨frame', hok⟩ := IncomingStreamsMap.deleteStream_accepted hid hentry
      rw [hok] at heq
      cases heq
      refine ⟨⟨htoAccept, h.le, fun x hx => ?_, fun i hi hio => ?_, h.notClosed⟩, rfl, rfl,
        fun hx => (AList.mem_erase.mp hx).2⟩
      · exact h.opened x (AList.mem_erase.mp hx).2
      · exact AList.mem_erase.mpr ⟨by lia, h.waiting i hi hio⟩
    · rw [IncomingStreamsMap.deleteStream_waiting hid hentry] at heq
      split at heq
      · cases heq
      · cases heq
        have hsame : ∀ x, x ∈ m.streams.insert id { entry with shouldDelete := true } →
            x ∈ m.streams := by
          intro x hx
          obtain rfl | hx := (AList.mem_insert _).mp hx
          · exact hmem
          · exact hx
        refine ⟨⟨htoAccept, h.le, fun x hx => h.opened x (hsame x hx), fun i hi hio => ?_,
          h.notClosed⟩, rfl, rfl, hsame _⟩
        exact (AList.mem_insert _).mpr (.inr (h.waiting i hi hio))

/-- A round of the loop that opens streams. -/
theorem Contiguous.openNext (h : Contiguous first k o m) :
    Contiguous first k (o + 1) (m.openNext newStream (first + 4 * o)) := by
  refine ⟨h.toAccept, Nat.le_succ_of_le h.le, fun x hx => ?_, fun i hi hio => ?_, h.notClosed⟩
  · obtain rfl | hx := (AList.mem_insert _).mp hx
    · exact ⟨o, by omega, rfl⟩
    · obtain ⟨i, hi, rfl⟩ := h.opened x hx
      exact ⟨i, by omega, rfl⟩
  · by_cases hlast : i = o
    · subst hlast
      exact (AList.mem_insert _).mpr (.inl rfl)
    · exact (AList.mem_insert _).mpr (.inr (h.waiting i hi (by omega)))

/-! ## the steps of the system -/

/-- A call that runs is the only one. -/
theorem Single.set {acceptors : List Acceptor} {i : Nat} {pc : Acceptor}
    (hsingle : Single acceptors) (hi : acceptors[i]? = some pc) (hpc : pc ≠ .done)
    (pc' : Acceptor) : Single (acceptors.set i pc') ∧
      (.blocked ∈ acceptors.set i pc' → pc' = .blocked) := by
  obtain ⟨i', hall⟩ := hsingle
  obtain rfl := hall i pc hi hpc
  constructor
  · refine ⟨i, fun j pc'' hj hne => ?_⟩
    by_cases hji : i = j
    · exact hji.symm
    · rw [List.getElem?_set_ne hji] at hj
      exact hall j pc'' hj hne
  · intro hmem
    obtain ⟨j, hj⟩ := List.mem_iff_getElem?.mp hmem
    by_cases hji : i = j
    · subst hji
      rw [List.getElem?_set_self (List.getElem?_eq_some_iff.mp hi).1] at hj
      cases hj
      rfl
    · rw [List.getElem?_set_ne hji] at hj
      exact absurd (hall j .blocked hj (by decide)).symm hji

theorem Signals.acceptorStep (h : Signals first s) {i : Nat} {pc : Acceptor}
    (hi : s.acceptors[i]? = some pc) : Signals first (s.acceptorStep i pc) := by
  have hsingle := h.single
  obtain ⟨k, o, hcont, hopener⟩ := h.contiguous
  cases pc with
  | drains =>
    obtain ⟨hsingle', hblocked⟩ := hsingle.set hi (by decide) .checks
    exact ⟨⟨k, o, { hcont with }, hopener⟩, hsingle', fun hb => absurd (hblocked hb) (by decide)⟩
  | checks =>
    rw [AcceptSystem.acceptorStep]
    split
    · exact h
    · obtain ⟨hnone, heq⟩ | ⟨stream, m', frame, heq, hcont', hopen⟩ := hcont.acceptStream
      · rw [heq]
        obtain ⟨hsingle', -⟩ := hsingle.set hi (by decide) .blocked
        exact ⟨⟨k, o, hcont, hopener⟩, hsingle', fun _ hmem => absurd hmem hnone⟩
      · rw [heq]
        obtain ⟨hsingle', hblocked⟩ := hsingle.set hi (by decide) .done
        refine ⟨⟨k + 1, o, hcont', ?_⟩, hsingle', fun hb => absurd (hblocked hb) (by decide)⟩
        dsimp only
        rw [hopen]
        exact hopener
  | blocked =>
    rw [AcceptSystem.acceptorStep]
    split
    · obtain ⟨hsingle', hblocked⟩ := hsingle.set hi (by decide) .checks
      exact ⟨⟨k, o, { hcont with }, hopener⟩, hsingle', fun hb => absurd (hblocked hb) (by decide)⟩
    · exact h
  | done => exact h

theorem Signals.openerStep (h : Signals first s) : Signals first (s.openerStep newStream) := by
  obtain ⟨k, o, hcont, hopener⟩ := h.contiguous
  rw [AcceptSystem.openerStep]
  cases hop : s.opener with
  | idle => exact h
  | looks id =>
    rw [hop] at hopener
    obtain ⟨hopen, j, rfl⟩ := hopener
    dsimp only
    split
    · rename_i hlooks
      have hnext := (IncomingStreamsMap.lookupStream_opens hlooks).1
      exact { h with contiguous := ⟨k, o, hcont, hopen, j, by lia, rfl⟩ }
    · exact { h with contiguous := ⟨k, o, hcont, hopen⟩ }
  | locks id =>
    rw [hop] at hopener
    obtain ⟨hopen, j, hj, hid⟩ := hopener
    exact { h with contiguous := ⟨k, o, hcont, hopen, j, Nat.le_succ_of_le hj, hid⟩ }
  | opens newNum id =>
    rw [hop] at hopener
    obtain ⟨rfl, j, hj, rfl⟩ := hopener
    dsimp only
    split
    · refine ⟨⟨k, o + 1, hcont.openNext, by push_cast; ring, j, by lia, rfl⟩, h.single,
        fun _ _ => rfl⟩
    · refine { h with contiguous := ⟨k, o, { hcont with }, ?_⟩ }
      have hlast : o = j + 1 := by lia
      subst hlast
      simp only [OpenerAt]
      push_cast
      ring

theorem Signals.step (h : Signals first s) {op : AcceptOp} (hop : s.Allowed first op) :
    Signals first (s.step newStream op) := by
  obtain ⟨k, o, hcont, hopener⟩ := h.contiguous
  cases op with
  | call =>
    refine ⟨h.contiguous, ⟨s.acceptors.length, fun j pc hj hne => ?_⟩, fun hb => ?_⟩
    · obtain hlt | hge := Nat.lt_or_ge j s.acceptors.length
      · rw [AcceptSystem.step, List.getElem?_append_left hlt] at hj
        exact absurd (hop pc (List.mem_of_getElem? hj)) hne
      · have hj' := (List.getElem?_eq_some_iff.mp hj).1
        simp only [AcceptSystem.step, List.length_append, List.length_singleton] at hj'
        omega
    · rw [AcceptSystem.step, List.mem_append, List.mem_singleton] at hb
      obtain hb | hb := hb
      · exact absurd (hop _ hb) (by decide)
      · cases hb
  | acceptor i =>
    rw [AcceptSystem.step]
    cases hi : s.acceptors[i]? with
    | none => exact h
    | some pc => exact h.acceptorStep hi
  | cancel i =>
    rw [AcceptSystem.step]
    split
    · rename_i hi
      obtain ⟨hsingle, hblocked⟩ := h.single.set hi (by decide) .done
      exact ⟨h.contiguous, hsingle, fun hb => absurd (hblocked hb) (by decide)⟩
    · exact h
  | getOrOpenStream id =>
    rw [AcceptSystem.step]
    split
    · rename_i hidle
      rw [hidle] at hopener
      obtain ⟨hle, hmod⟩ := hop
      exact { h with
        contiguous := ⟨k, o, hcont, hopener, ((id - first) / 4).toNat, by lia⟩ }
    · exact h
  | opener => exact h.openerStep
  | deleteStream id =>
    rw [AcceptSystem.step]
    split
    · exact h
    · cases hdel : s.map.deleteStream id with
      | error err => exact h
      | ok r =>
        obtain ⟨m', frame⟩ := r
        obtain ⟨hcont', hopen, hchan, hnext⟩ := hcont.deleteStream hdel
        refine ⟨⟨k, o, hcont', ?_⟩, h.single, fun hb hmem => ?_⟩
        · dsimp only
          rw [hopen]
          exact hopener
        · exact hchan.trans (h.signal hb (hnext hmem))

theorem signals_new (streamType : StreamType) (n : Nat) (pers : Perspective) :
    Signals (firstIncomingStream streamType pers) (new streamType n pers : AcceptSystem τ) where
  contiguous := ⟨0, 0, ⟨by simp [new, newIncomingStreamsMap], le_rfl,
    by simp [new, newIncomingStreamsMap], by omega, rfl⟩,
    by simp [OpenerAt, new, newIncomingStreamsMap]⟩
  single := ⟨0, by simp [new]⟩
  signal hb := by simp [new] at hb

/-- One goroutine accepts two streams that are opened at once, with two calls. -/
def oneAcceptor : List AcceptOp :=
  [.call, .acceptor 0, .acceptor 0, .getOrOpenStream 4, .opener, .opener, .opener, .opener, .opener,
    .acceptor 0, .acceptor 0, .call, .acceptor 1, .acceptor 1]

end AcceptSystem

end MoqQuic.Quic
