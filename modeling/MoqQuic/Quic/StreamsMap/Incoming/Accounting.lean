import MoqQuic.Lib.Machine
import MoqQuic.Quic.StreamsMap.Incoming

/-!
# MoqQuic.Quic.StreamsMap.Incoming.Accounting

How many streams the peer may open, and which streams `AcceptStream` returns.

A run interleaves the sections of the calls. `opening` has the calls of `GetOrOpenStream` that have
given the read lock back and do not have the write lock yet. The connection has one such call at a
time, since it handles the frames of the peer one after the other.
-/

namespace MoqQuic.Quic

open Machine

variable {τ : Type}

/-- A map with what happened to it. -/
structure IncomingRun (τ : Type) where
  map : IncomingStreamsMap τ
  /-- the calls of `GetOrOpenStream` that are going to open a stream -/
  opening : List StreamID := []
  /-- what `AcceptStream` returned -/
  accepted : List (StreamID × τ) := []
  /-- the streams that `DeleteStream` was called for, without an error -/
  completed : List StreamID := []
  /-- the streams that were deleted from the map -/
  deleted : List StreamID := []

inductive IncomingOp where
  | getOrOpenStream (id : StreamID)
  /-- the call that is at a position goes on -/
  | openStreams (i : Nat)
  | deleteStream (id : StreamID)
  | acceptStream
  deriving DecidableEq, Repr

namespace IncomingRun

def new (streamType : StreamType) (maxStreams : Nat) (pers : Perspective) : IncomingRun τ where
  map := newIncomingStreamsMap streamType maxStreams pers

/-- The stream is not in the map any more. -/
def erased (before after : IncomingStreamsMap τ) (id : StreamID) : List StreamID :=
  if (before.streams.lookup id).isSome ∧ (after.streams.lookup id).isNone then [id] else []

def step (newStream : StreamID → τ) (l : IncomingRun τ) : IncomingOp → IncomingRun τ
  | .getOrOpenStream id =>
    match l.map.lookupStream id with
    | .opens => { l with opening := l.opening ++ [id] }
    | _ => l
  | .openStreams i =>
    match l.opening[i]? with
    | none => l
    | some id => { l with
        map := (l.map.openStreams newStream id).2
        opening := l.opening.eraseIdx i }
  | .deleteStream id =>
    match l.map.deleteStream id with
    | .error _ => l
    | .ok (map, _) => { l with
        map := map
        completed := l.completed ++ [id]
        deleted := l.deleted ++ erased l.map map id }
  | .acceptStream =>
    match l.map.acceptStream with
    | (.returned id stream, map, _) => { l with
        map := map
        accepted := l.accepted ++ [(id, stream)]
        deleted := l.deleted ++ erased l.map map id }
    | (_, map, _) => { l with map := map }

/-- The connection calls `GetOrOpenStream` with IDs of the type of the map, and one call after the
other. -/
def Allowed (first : StreamID) (l : IncomingRun τ) : IncomingOp → Prop
  | .getOrOpenStream id => (first ≤ id ∧ (id - first) % 4 = 0) ∧ l.opening = []
  | _ => True

instance (first : StreamID) (l : IncomingRun τ) (op : IncomingOp) : Decidable (l.Allowed first op) := by
  cases op <;> unfold Allowed <;> infer_instance

/-! ## two calls of `GetOrOpenStream` at the same time -/

/-- Two calls find that their streams have to be opened; the one with the higher ID goes first. Then
the streams are accepted and one is deleted. -/
def racingOpeners : List IncomingOp :=
  [.getOrOpenStream 8, .getOrOpenStream 0, .openStreams 0, .openStreams 0, .acceptStream,
    .deleteStream 0]

theorem racingOpeners_lower_limit : (new .bidi 10 .server : IncomingRun Unit).map.maxStream = 36 ∧
    (run (step fun _ => ()) (new .bidi 10 .server) racingOpeners).map.maxStream = 32 := by
  decide

/-- The `i`-th stream of the type. -/
def Opened (first : StreamID) (o : Nat) (x : StreamID) : Prop :=
  ∃ i : Nat, i < o ∧ x = first + 4 * i

theorem opened_iff {first : Int} {o : Nat} {x : Int} :
    Opened first o x ↔ first ≤ x ∧ x < first + 4 * o ∧ (x - first) % 4 = 0 := by
  constructor
  · rintro ⟨i, hi, rfl⟩
    omega
  · intro h
    exact ⟨((x - first) / 4).toNat, by lia, by lia⟩

end IncomingRun

namespace IncomingStreamsMap

open IncomingRun (Opened opened_iff)

variable {m : IncomingStreamsMap τ} {id : StreamID} {newStream : StreamID → τ}

/-! ## what the sections do -/

/-- The limit after a stream was deleted. -/
def raised (m : IncomingStreamsMap τ) (id : StreamID) : StreamID :=
  let size := (m.streams.erase id).keys.length
  let maxStream := m.nextStreamToOpen + 4 * ((m.maxNumStreams - size - 1 : Nat) : Int)
  if m.maxNumStreams > size ∧ maxStream ≤ MaxStreamID then maxStream else m.maxStream

/-- The map without a stream. -/
abbrev remove (m : IncomingStreamsMap τ) (id : StreamID) : IncomingStreamsMap τ :=
  { m with streams := m.streams.erase id, maxStream := m.raised id }

variable {entry : IncomingStreamEntry τ}

theorem deleteStream_accepted (hid : id < m.nextStreamToAccept)
    (hentry : m.streams.lookup id = some entry) :
    ∃ frame, m.deleteStream id = .ok (m.remove id, frame) := by
  simp only [deleteStream, hentry, if_neg (not_le.mpr hid), remove, raised]
  split
  · next hsize =>
    simp only [hsize, true_and]
    split <;> exact ⟨_, rfl⟩
  · next hsize =>
    rw [if_neg fun h => hsize h.1]
    exact ⟨_, rfl⟩

theorem lookupStream_opens (h : m.lookupStream id = .opens) :
    m.nextStreamToOpen ≤ id ∧ id ≤ m.maxStream := by
  rw [lookupStream] at h
  grind

/-- A stream that was not accepted yet is marked. -/
theorem deleteStream_waiting (hid : ¬ id < m.nextStreamToAccept)
    (hentry : m.streams.lookup id = some entry) : m.deleteStream id =
      if entry.shouldDelete then .error (.multipleTimes id)
      else .ok ({ m with
        streams := m.streams.insert id { entry with shouldDelete := true } }, none) := by
  simp only [deleteStream, hentry]
  rw [if_pos (not_lt.mp hid)]

theorem acceptStream_kept (hclosed : m.closeErr = false)
    (hentry : m.streams.lookup m.nextStreamToAccept = some entry)
    (hdelete : entry.shouldDelete = false) :
    m.acceptStream = (.returned m.nextStreamToAccept entry.stream,
      { m with nextStreamToAccept := m.nextStreamToAccept + 4 }, none) := by
  simp only [acceptStream]
  rw [if_neg (by simp [hclosed])]
  simp only [hentry]
  rw [if_neg (by simp [hdelete])]

theorem acceptStream_deleted (hclosed : m.closeErr = false)
    (hentry : m.streams.lookup m.nextStreamToAccept = some entry)
    (hdelete : entry.shouldDelete = true) {m' : IncomingStreamsMap τ}
    {frame : Option MaxStreamsFrame}
    (heq : { m with nextStreamToAccept := m.nextStreamToAccept + 4 }.deleteStream
      m.nextStreamToAccept = .ok (m', frame)) :
    m.acceptStream = (.returned m.nextStreamToAccept entry.stream, m', frame) := by
  simp only [acceptStream]
  rw [if_neg (by simp [hclosed])]
  simp only [hentry]
  rw [if_pos hdelete, heq]

open Classical in
/-- The streams that a loop opens. -/
theorem lookup_openFrom (newStream : StreamID → τ) (x : Int) :
    ∀ (n : Nat) (m : IncomingStreamsMap τ) (newNum : Int),
      (openFrom newStream m newNum n).streams.lookup x =
        if Opened newNum n x then some { stream := newStream x } else m.streams.lookup x
  | 0, m, newNum => by simp [openFrom, Opened]
  | n + 1, m, newNum => by
    rw [openFrom, lookup_openFrom newStream x n]
    by_cases hfirst : x = newNum
    · subst hfirst
      rw [if_neg (by rw [opened_iff]; omega), if_pos ⟨0, by simp⟩, openNext, AList.lookup_insert]
    · have hiff : Opened (newNum + 4) n x ↔ Opened newNum (n + 1) x := by
        rw [opened_iff, opened_iff]
        omega
      simp only [hiff, openNext, AList.lookup_insert_ne hfirst]

/-- The number of streams grows by those that a loop opens. -/
theorem length_openFrom (newStream : StreamID → τ) :
    ∀ (n : Nat) (m : IncomingStreamsMap τ) (newNum : Int),
      (∀ x : Int, Opened newNum n x → x ∉ m.streams) →
      (openFrom newStream m newNum n).streams.keys.length = m.streams.keys.length + n
  | 0, m, newNum, _ => rfl
  | n + 1, m, newNum, hfresh => by
    have hnotMem : newNum ∉ m.streams.keys := hfresh newNum ⟨0, by simp⟩
    rw [openFrom, length_openFrom newStream n]
    · rw [openNext, AList.keys_insert, List.erase_of_not_mem hnotMem, List.length_cons]
      omega
    · intro x hx
      rw [opened_iff] at hx
      rw [openNext, AList.mem_insert, not_or]
      exact ⟨by omega, hfresh x (opened_iff.mpr (by omega))⟩

/-- The loop changes nothing but the streams and the channel. -/
theorem openFrom_frame (newStream : StreamID → τ) :
    ∀ (n : Nat) (m : IncomingStreamsMap τ) (newNum : StreamID),
      openFrom newStream m newNum n = { m with
        streams := (openFrom newStream m newNum n).streams
        newStreamChan := (openFrom newStream m newNum n).newStreamChan }
  | 0, m, newNum => rfl
  | n + 1, m, newNum => by
    rw [openFrom, openFrom_frame newStream n]
    rfl

/-- The rounds that it takes to open the streams up to the one at a place. -/
theorem rounds_eq (first : Int) {o i : Nat} (hoi : o ≤ i) :
    rounds (first + 4 * o) (first + 4 * i) = i + 1 - o := by
  have hdiff : first + 4 * (i : Int) - (first + 4 * o) = 4 * ((i - o : Nat) : Int) := by
    omega
  have hle : first + 4 * (o : Int) ≤ first + 4 * i := by omega
  rw [rounds, if_pos hle, hdiff, Int.mul_ediv_cancel_left _ (by decide), Int.toNat_natCast]
  omega

end IncomingStreamsMap

namespace IncomingRun

variable {l : IncomingRun τ} {newStream : StreamID → τ} {first : Int} {n o : Nat}

/-! ## the invariant -/

/-- The peer opened `o` streams. -/
structure Accounts (newStream : StreamID → τ) (first : Int) (n o : Nat) (l : IncomingRun τ) :
    Prop where
  toOpen : l.map.nextStreamToOpen = first + 4 * o
  toAccept : l.map.nextStreamToAccept = first + 4 * l.accepted.length
  accepted_le : l.accepted.length ≤ o
  accepted : l.accepted = (List.range l.accepted.length).map fun i : Nat =>
    (first + 4 * i, newStream (first + 4 * i))
  mem_iff : ∀ x, x ∈ l.map.streams ↔ Opened first o x ∧ x ∉ l.deleted
  size : l.map.streams.keys.length + l.deleted.length = o
  entry : ∀ x e, l.map.streams.lookup x = some e →
    e.stream = newStream x ∧ (e.shouldDelete = true ↔ x ∈ l.completed)
  deleted : ∀ x ∈ l.deleted, x ∈ l.completed ∧ x < l.map.nextStreamToAccept
  nodup : l.deleted.Nodup
  completed : ∀ x ∈ l.completed, Opened first o x
  maxNum : l.map.maxNumStreams = n
  limit_le : l.map.maxStream ≤ first + 4 * ((n : Int) - 1 + l.deleted.length)
  limit : first + 4 * ((n : Int) - 1 + l.deleted.length) ≤ MaxStreamID →
    l.map.maxStream = first + 4 * ((n : Int) - 1 + l.deleted.length)
  opened_le : o ≤ n + l.deleted.length
  opening : ∀ id ∈ l.opening, (∃ i : Nat, o ≤ i ∧ id = first + 4 * i) ∧ id ≤ l.map.maxStream
  single : l.opening.length ≤ 1
  notClosed : l.map.closeErr = false

/-- A stream that was accepted and is still in the map is not completed. -/
def Live (l : IncomingRun τ) : Prop :=
  ∀ x e, l.map.streams.lookup x = some e → x < l.map.nextStreamToAccept → e.shouldDelete = false

/-- The number of streams in the map. -/
theorem Accounts.length_le (h : Accounts newStream first n o l) :
    l.map.streams.keys.length ≤ n := by
  have hsize := h.size
  have hopened := h.opened_le
  omega

theorem accounts_new (streamType : StreamType) (hn : 1 ≤ n) (pers : Perspective) :
    Accounts newStream (firstIncomingStream streamType pers) n 0
      (new streamType n pers : IncomingRun τ) ∧ Live (new streamType n pers : IncomingRun τ) := by
  have hmax : StreamNum.streamID (n : Int) streamType pers.opposite =
      firstIncomingStream streamType pers + 4 * ((n : Int) - 1 + (0 : Nat)) := by
    rw [StreamNum.streamID, if_neg (by lia), firstIncomingStream]
    simp
  refine ⟨?_, fun x e he => ?_⟩
  · constructor
    case limit => exact fun _ => hmax
    case limit_le => exact hmax.le
    case entry =>
      intro x e he
      simp [new, newIncomingStreamsMap] at he
    all_goals simp [new, newIncomingStreamsMap, Opened]
  · simp [new, newIncomingStreamsMap] at he

/-- A stream is deleted. -/
abbrev remove (l : IncomingRun τ) (id : StreamID) (completed : List StreamID) : IncomingRun τ :=
  { l with map := l.map.remove id, completed := completed, deleted := l.deleted ++ [id] }

theorem Accounts.erase (h : Accounts newStream first n o l) {id : StreamID}
    (hid : id < l.map.nextStreamToAccept) (hmem : id ∈ l.map.streams)
    (hlive : ∀ x e, l.map.streams.lookup x = some e → x ≠ id → x < l.map.nextStreamToAccept →
      e.shouldDelete = false) (completed : List StreamID) (hid' : id ∈ completed)
    (hcompleted : ∀ x, x ∈ completed ↔ x = id ∨ x ∈ l.completed) :
    Accounts newStream first n o (l.remove id completed) ∧ Live (l.remove id completed) ∧
      l.map.maxStream ≤ l.map.raised id := by
  have hopened := (h.mem_iff id).mp hmem
  have hlen : (l.map.streams.erase id).keys.length + 1 = l.map.streams.keys.length := by
    rw [AList.keys_erase]
    exact List.length_erase_add_one hmem
  have hsize := h.size
  have hle := h.opened_le
  have hlt : (l.map.streams.erase id).keys.length < l.map.maxNumStreams := by
    rw [h.maxNum]
    omega
  -- the closed form of the new limit
  have hform : l.map.nextStreamToOpen +
      4 * ((l.map.maxNumStreams - (l.map.streams.erase id).keys.length - 1 : Nat) : Int) =
        first + 4 * ((n : Int) - 1 + (l.deleted.length + 1 : Nat)) := by
    rw [h.toOpen, h.maxNum]
    rw [h.maxNum] at hlt
    lia
  have hraised : l.map.raised id =
      if first + 4 * ((n : Int) - 1 + (l.deleted.length + 1 : Nat)) ≤ MaxStreamID then
        first + 4 * ((n : Int) - 1 + (l.deleted.length + 1 : Nat)) else l.map.maxStream := by
    simp only [IncomingStreamsMap.raised, hform, gt_iff_lt, hlt, true_and]
  have hlimit := h.limit_le
  have hmono : l.map.maxStream ≤ l.map.raised id := by
    rw [hraised]
    split
    · lia
    · exact le_rfl
  refine ⟨⟨h.toOpen, h.toAccept, h.accepted_le, h.accepted, fun x => ?_, ?_, fun x e he => ?_,
    fun x hx => ?_, ?_, fun x hx => ?_, h.maxNum, ?_, fun hmax => ?_, ?_, fun x hx => ?_, h.single,
    h.notClosed⟩, fun x e he hx => ?_, hmono⟩
  · rw [AList.mem_erase, h.mem_iff, List.mem_append, List.mem_singleton]
    grind
  · rw [List.length_append, List.length_singleton]
    dsimp only
    omega
  · by_cases hx : x = id
    · subst hx
      rw [AList.lookup_erase] at he
      cases he
    · rw [AList.lookup_erase_ne hx] at he
      obtain ⟨hstream, hdelete⟩ := h.entry x e he
      refine ⟨hstream, hdelete.trans ?_⟩
      simp [hcompleted, hx]
  · rw [List.mem_append, List.mem_singleton] at hx
    obtain hx | rfl := hx
    · obtain ⟨hcomp, hlt⟩ := h.deleted x hx
      exact ⟨(hcompleted x).mpr (.inr hcomp), hlt⟩
    · exact ⟨hid', hid⟩
  · exact List.nodup_append.mpr ⟨h.nodup, by simp, by grind⟩
  · obtain rfl | hx := (hcompleted x).mp hx
    · exact hopened.1
    · exact h.completed x hx
  · rw [List.length_append, List.length_singleton]
    dsimp only
    rw [hraised]
    split
    · exact le_rfl
    · lia
  · rw [List.length_append, List.length_singleton] at hmax ⊢
    dsimp only
    rw [hraised, if_pos hmax]
  · rw [List.length_append]
    omega
  · obtain ⟨hid, hle⟩ := h.opening x hx
    exact ⟨hid, hle.trans hmono⟩
  · by_cases hxid : x = id
    · subst hxid
      rw [AList.lookup_erase] at he
      cases he
    · rw [AList.lookup_erase_ne hxid] at he
      exact hlive x e he hxid hx

theorem erased_remove {m m' : IncomingStreamsMap τ} {id : StreamID} {entry : IncomingStreamEntry τ}
    (hentry : m.streams.lookup id = some entry) : erased m (m'.remove id) id = [id] := by
  rw [erased, hentry, AList.lookup_erase]
  rfl

/-! ## the steps -/

/-- What a step does to the limit. -/
def Raises (l l' : IncomingRun τ) : Prop :=
  l.map.maxStream ≤ l'.map.maxStream ∧
    (l'.map.maxStream ≠ l.map.maxStream → l.deleted.length < l'.deleted.length)

theorem Raises.refl_of_eq {l' : IncomingRun τ} (h : l'.map.maxStream = l.map.maxStream) :
    Raises l l' := ⟨h.ge, fun hne => absurd h hne⟩

section

variable (h : Accounts newStream first n o l)
include h

theorem Accounts.getOrOpenStream {id : Int}
    (hid : first ≤ id ∧ (id - first) % 4 = 0) (hopening : l.opening = []) :
    Accounts newStream first n o (l.step newStream (.getOrOpenStream id)) ∧
      (l.step newStream (.getOrOpenStream id)).map = l.map := by
  rw [step]
  split
  · next heq =>
    obtain ⟨hnext, hmax⟩ := IncomingStreamsMap.lookupStream_opens heq
    refine ⟨{ h with opening := fun x hx => ?_, single := by simp [hopening] }, rfl⟩
    simp only [hopening, List.nil_append, List.mem_singleton] at hx
    subst hx
    have htoOpen := h.toOpen
    exact ⟨⟨((x - first) / 4).toNat, by lia, by lia⟩, hmax⟩
  · exact ⟨h, rfl⟩

theorem Accounts.openStreams (hlive : Live l) (i : Nat) :
    ∃ o', Accounts newStream first n o' (l.step newStream (.openStreams i)) ∧
      Live (l.step newStream (.openStreams i)) ∧
      (l.step newStream (.openStreams i)).map.maxStream = l.map.maxStream := by
  rw [step]
  cases hi : l.opening[i]? with
  | none => exact ⟨o, h, hlive, rfl⟩
  | some id =>
    obtain ⟨⟨j, hoj, rfl⟩, hmax⟩ := h.opening id (List.mem_of_getElem? hi)
    have hnil : l.opening.eraseIdx i = [] := by
      have hsingle := h.single
      have hlt := (List.getElem?_eq_some_iff.mp hi).1
      rw [← List.length_eq_zero_iff, List.length_eraseIdx_of_lt hlt]
      omega
    have hrounds := IncomingStreamsMap.rounds_eq first hoj
    have hframe := IncomingStreamsMap.openFrom_frame newStream (j + 1 - o) l.map (first + 4 * o)
    have hlookup := fun x =>
      IncomingStreamsMap.lookup_openFrom newStream x (j + 1 - o) l.map (first + 4 * o)
    -- the streams that are open afterwards
    have hnew (x : Int) : Opened first (j + 1) x ↔
        Opened first o x ∨ Opened (first + 4 * o) (j + 1 - o) x := by
      simp only [opened_iff]
      omega
    have hfresh (x : Int) (hx : Opened (first + 4 * o) (j + 1 - o) x) : ¬ Opened first o x := by
      rw [opened_iff] at *
      omega
    have hlength := IncomingStreamsMap.length_openFrom newStream (j + 1 - o) l.map
      (first + 4 * o) fun x hx hmem => hfresh x hx ((h.mem_iff x).mp hmem).1
    refine ⟨j + 1, ?_⟩
    simp only [hnil, IncomingStreamsMap.openStreams, h.toOpen, hrounds]
    generalize IncomingStreamsMap.openFrom newStream l.map (first + 4 * o) (j + 1 - o) = m at *
    have hmaxStream : m.maxStream = l.map.maxStream := congrArg (·.maxStream) hframe
    have haccept : m.nextStreamToAccept = l.map.nextStreamToAccept :=
      congrArg (·.nextStreamToAccept) hframe
    have hlimit := h.limit_le
    have hmem : ∀ x, x ∈ m.streams ↔ Opened first (j + 1) x ∧ x ∉ l.deleted := by
      intro x
      rw [← AList.lookup_isSome, hnew, hlookup]
      split
      · next hx =>
        have hdeleted : x ∉ l.deleted := fun hd => hfresh x hx (h.completed x (h.deleted x hd).1)
        simp [hx, hdeleted]
      · next hx =>
        rw [AList.lookup_isSome, h.mem_iff]
        simp [hx]
    have hentry : ∀ x e, m.streams.lookup x = some e →
        (e.stream = newStream x ∧ (e.shouldDelete = true ↔ x ∈ l.completed)) ∧
        (x < l.map.nextStreamToAccept → e.shouldDelete = false) := by
      intro x e he
      rw [hlookup] at he
      split at he
      · next hx =>
        cases he
        have hnot : x ∉ l.completed := fun hcomp => hfresh x hx (h.completed x hcomp)
        exact ⟨⟨rfl, by simp [hnot]⟩, fun _ => rfl⟩
      · exact ⟨h.entry x e he, hlive x e he⟩
    refine ⟨⟨by push_cast; ring, haccept.trans h.toAccept, ?_, h.accepted, hmem, ?_,
      fun x e he => (hentry x e he).1, ?_, h.nodup, fun x hx => ?_, ?_, ?_, ?_, ?_, by simp,
      by simp, ?_⟩,
      fun x e he hx => (hentry x e he).2 (haccept ▸ hx), hmaxStream⟩
    · have hle := h.accepted_le
      dsimp only
      omega
    · have hsize := h.size
      dsimp only
      omega
    · rw [haccept]
      exact h.deleted
    · obtain ⟨i, hi, rfl⟩ := h.completed x hx
      exact ⟨i, by omega, rfl⟩
    · exact (congrArg (·.maxNumStreams) hframe).trans h.maxNum
    · rw [hmaxStream]
      exact h.limit_le
    · rw [hmaxStream]
      exact h.limit
    · have hle : first + 4 * (j : Int) ≤ first + 4 * ((n : Int) - 1 + l.deleted.length) :=
        hmax.trans hlimit
      dsimp only
      omega
    · exact (congrArg (·.closeErr) hframe).trans h.notClosed

theorem Accounts.deleteStream (hlive : Live l) (id : StreamID) :
    Accounts newStream first n o (l.step newStream (.deleteStream id)) ∧
      Live (l.step newStream (.deleteStream id)) ∧
      Raises l (l.step newStream (.deleteStream id)) := by
  rw [step]
  cases hentry : l.map.streams.lookup id with
  | none =>
    have herr : l.map.deleteStream id = .error (.unknownStream id) := by
      rw [IncomingStreamsMap.deleteStream, hentry]
    rw [herr]
    exact ⟨h, hlive, .refl_of_eq rfl⟩
  | some entry =>
    have hmem := AList.lookup_isSome.mp (Option.isSome_of_eq_some hentry)
    by_cases hid : id < l.map.nextStreamToAccept
    · obtain ⟨frame, heq⟩ := IncomingStreamsMap.deleteStream_accepted hid hentry
      obtain ⟨hacc, hlive', hle⟩ := h.erase hid hmem (fun x e he _ => hlive x e he)
        (l.completed ++ [id]) (by simp) (by simp [or_comm])
      simp only [heq, erased_remove hentry]
      exact ⟨hacc, hlive', hle, fun _ => by simp⟩
    · have heq := IncomingStreamsMap.deleteStream_waiting hid hentry
      cases hdelete : entry.shouldDelete with
      | true =>
        rw [hdelete, if_pos rfl] at heq
        rw [heq]
        exact ⟨h, hlive, .refl_of_eq rfl⟩
      | false =>
        rw [hdelete, if_neg (by decide)] at heq
        have herased : erased l.map { l.map with
            streams := l.map.streams.insert id { entry with shouldDelete := true } } id = [] := by
          rw [erased, AList.lookup_insert]
          simp
        simp only [heq, herased, List.append_nil]
        have hkeys : (l.map.streams.insert id { entry with shouldDelete := true }).keys.length =
            l.map.streams.keys.length := by
          rw [AList.keys_insert, List.length_cons]
          exact List.length_erase_add_one hmem
        refine ⟨{ h with
          mem_iff := fun x => ?_
          size := ?_
          entry := fun x e he => ?_
          deleted := fun x hx => ?_
          completed := fun x hx => ?_ }, fun x e he hx => ?_, .refl_of_eq rfl⟩
        · rw [AList.mem_insert, h.mem_iff]
          have hopened := (h.mem_iff id).mp hmem
          grind
        · dsimp only
          rw [hkeys]
          exact h.size
        · by_cases hx : x = id
          · subst hx
            rw [AList.lookup_insert] at he
            cases he
            simpa using (h.entry x entry hentry).1
          · rw [AList.lookup_insert_ne hx] at he
            simpa [hx] using h.entry x e he
        · obtain ⟨hcomp, hlt⟩ := h.deleted x hx
          exact ⟨List.mem_append_left _ hcomp, hlt⟩
        · rw [List.mem_append, List.mem_singleton] at hx
          obtain hx | rfl := hx
          · exact h.completed x hx
          · exact ((h.mem_iff x).mp hmem).1
        · by_cases hxid : x = id
          · subst hxid
            exact absurd hx hid
          · rw [AList.lookup_insert_ne hxid] at he
            exact hlive x e he hx

end

/-- The run once the next stream is accepted, before it is deleted if it has to be. -/
def acceptNext (l : IncomingRun τ) (stream : τ) : IncomingRun τ :=
  { l with
    map := { l.map with nextStreamToAccept := l.map.nextStreamToAccept + 4 }
    accepted := l.accepted ++ [(l.map.nextStreamToAccept, stream)] }

theorem Accounts.acceptNext (h : Accounts newStream first n o l) (hlive : Live l)
    {entry : IncomingStreamEntry τ}
    (hentry : l.map.streams.lookup l.map.nextStreamToAccept = some entry) :
    Accounts newStream first n o (l.acceptNext entry.stream) ∧
      ∀ x e, l.map.streams.lookup x = some e → x ≠ l.map.nextStreamToAccept →
        x < (l.acceptNext entry.stream).map.nextStreamToAccept → e.shouldDelete = false := by
  have htoAccept := h.toAccept
  have hmem := AList.lookup_isSome.mp (Option.isSome_of_eq_some hentry)
  obtain ⟨k, hk, heq⟩ := ((h.mem_iff _).mp hmem).1
  have hlen : l.accepted.length = k := by lia
  have hstream := (h.entry _ entry hentry).1
  refine ⟨{ h with
    toAccept := ?_
    accepted_le := ?_
    accepted := ?_
    deleted := fun x hx => ?_ }, fun x e he hne hx => ?_⟩
  · simp only [IncomingRun.acceptNext, List.length_append, List.length_singleton]
    lia
  · simp only [IncomingRun.acceptNext, List.length_append, List.length_singleton]
    omega
  · simp only [IncomingRun.acceptNext, List.length_append, List.length_singleton, List.range_succ,
      List.map_append, List.map_singleton]
    rw [← h.accepted, ← htoAccept, hstream]
  · obtain ⟨hcomp, hlt⟩ := h.deleted x hx
    have hlt' : x < l.map.nextStreamToAccept + 4 := by lia
    exact ⟨hcomp, hlt'⟩
  · -- there is no stream of this type between the two
    have hx' : x < l.map.nextStreamToAccept := by
      have hopened := AList.lookup_isSome.mp (Option.isSome_of_eq_some he)
      obtain ⟨i, hi, rfl⟩ := ((h.mem_iff x).mp hopened).1
      simp only [IncomingRun.acceptNext] at hx
      lia
    exact hlive x e he hx'

theorem Accounts.acceptStream_cases (h : Accounts newStream first n o l) (hlive : Live l) :
    (l.map.streams.lookup l.map.nextStreamToAccept = none ∧
      l.map.acceptStream = (.waits, l.map, none)) ∨
    ∃ map frame, l.map.acceptStream =
        (.returned l.map.nextStreamToAccept (newStream l.map.nextStreamToAccept), map, frame) ∧
      Accounts newStream first n o (l.step newStream .acceptStream) ∧
      Live (l.step newStream .acceptStream) ∧ Raises l (l.step newStream .acceptStream) := by
  cases hentry : l.map.streams.lookup l.map.nextStreamToAccept with
  | none =>
    refine .inl ⟨rfl, ?_⟩
    rw [IncomingStreamsMap.acceptStream, h.notClosed, hentry]
    rfl
  | some entry =>
    obtain ⟨hacc, hlive'⟩ := h.acceptNext hlive hentry
    have hstream := (h.entry _ entry hentry).1
    right
    cases hdelete : entry.shouldDelete with
    | false =>
      have heq : l.map.acceptStream = (.returned l.map.nextStreamToAccept entry.stream,
          (l.acceptNext entry.stream).map, none) :=
        IncomingStreamsMap.acceptStream_kept h.notClosed hentry hdelete
      have herased : erased l.map (l.acceptNext entry.stream).map l.map.nextStreamToAccept =
          [] := by
        have hsame : (l.acceptNext entry.stream).map.streams = l.map.streams := rfl
        rw [erased, hsame, hentry]
        rfl
      have hstep : l.step newStream .acceptStream = l.acceptNext entry.stream := by
        simp only [step, heq, herased, List.append_nil]
        rfl
      rw [hstep]
      refine ⟨_, _, hstream ▸ heq, hacc, fun x e he hx => ?_, .refl_of_eq rfl⟩
      by_cases hne : x = l.map.nextStreamToAccept
      · subst hne
        have hsame : (l.acceptNext entry.stream).map.streams = l.map.streams := rfl
        rw [hsame, hentry] at he
        cases he
        exact hdelete
      · exact hlive' x e he hne hx
    | true =>
      have hlt : l.map.nextStreamToAccept <
          (l.acceptNext entry.stream).map.nextStreamToAccept := Int.lt_add_of_pos_right _ (by decide)
      obtain ⟨frame, hdel⟩ := IncomingStreamsMap.deleteStream_accepted
        (m := (l.acceptNext entry.stream).map) hlt hentry
      have hcomp : l.map.nextStreamToAccept ∈ l.completed :=
        (h.entry _ entry hentry).2.mp hdelete
      have hmem := AList.lookup_isSome.mp (Option.isSome_of_eq_some hentry)
      obtain ⟨hacc', hlive'', hle⟩ := hacc.erase hlt hmem hlive' l.completed hcomp
        (fun x => ⟨.inr, fun hx => hx.elim (fun heq => heq ▸ hcomp) id⟩)
      have heq := IncomingStreamsMap.acceptStream_deleted h.notClosed hentry hdelete hdel
      have hstep : l.step newStream .acceptStream =
          (l.acceptNext entry.stream).remove l.map.nextStreamToAccept l.completed := by
        simp only [step, heq, erased_remove hentry]
        rfl
      rw [hstep]
      refine ⟨_, _, hstream ▸ heq, hacc', hlive'', hle, fun _ => ?_⟩
      have hsame : (l.acceptNext entry.stream).deleted = l.deleted := rfl
      simp [hsame]

/-! ## every run -/

/-- What a run keeps: the peer opened some number of streams. -/
def Keeps (newStream : StreamID → τ) (first : StreamID) (n : Nat) (l : IncomingRun τ) : Prop :=
  ∃ o, Accounts newStream first n o l ∧ Live l

theorem Keeps.step (h : Keeps newStream first n l) {op : IncomingOp} (hop : l.Allowed first op) :
    Keeps newStream first n (l.step newStream op) ∧ Raises l (l.step newStream op) := by
  obtain ⟨o, hacc, hlive⟩ := h
  cases op with
  | getOrOpenStream id =>
    obtain ⟨hacc', hmap⟩ := hacc.getOrOpenStream hop.1 hop.2
    refine ⟨⟨o, hacc', fun x e he hx => ?_⟩, .refl_of_eq (by rw [hmap])⟩
    rw [hmap] at he hx
    exact hlive x e he hx
  | openStreams i =>
    obtain ⟨o', hacc', hlive', hmax⟩ := hacc.openStreams hlive i
    exact ⟨⟨o', hacc', hlive'⟩, .refl_of_eq hmax⟩
  | deleteStream id =>
    obtain ⟨hacc', hlive', hraises⟩ := hacc.deleteStream hlive id
    exact ⟨⟨o, hacc', hlive'⟩, hraises⟩
  | acceptStream =>
    obtain ⟨-, hwaits⟩ | ⟨map, frame, -, hacc', hlive', hraises⟩ := hacc.acceptStream_cases hlive
    · have hstep : l.step newStream .acceptStream = l := by
        simp only [IncomingRun.step, hwaits]
      rw [hstep]
      exact ⟨⟨o, hacc, hlive⟩, .refl_of_eq rfl⟩
    · exact ⟨⟨o, hacc', hlive'⟩, hraises⟩

/-- What the accounts come to for the peer and the application. -/
structure Accounted (newStream : StreamID → τ) (first : StreamID) (n : Nat) (l : IncomingRun τ) :
    Prop where
  /-- the limit grows with the number of streams that were deleted -/
  limit : first + 4 * ((n : Int) - 1 + l.deleted.length) ≤ MaxStreamID →
    l.map.maxStream = first + 4 * ((n : Int) - 1 + l.deleted.length)
  nodup : l.deleted.Nodup
  raises : ∀ op, l.Allowed first op → Raises l (l.step newStream op)
  live : l.map.streams.keys.length ≤ n
  /-- the streams are accepted one after the other -/
  accepted : l.accepted = (List.range l.accepted.length).map fun i : Nat =>
    (first + 4 * i, newStream (first + 4 * i))
  next : l.map.nextStreamToAccept = first + 4 * l.accepted.length ∧
    (l.map.nextStreamToAccept < l.map.nextStreamToOpen → ∃ map frame, l.map.acceptStream =
      (.returned l.map.nextStreamToAccept (newStream l.map.nextStreamToAccept), map, frame))
  /-- neither part of `GetOrOpenStream` returns a stream that is or has to be deleted -/
  deleted : ∀ id ∈ l.deleted, id ∈ l.completed
  returned : ∀ id stream, l.map.lookupStream id = .returned (some stream) → id ∉ l.completed
  opening : ∀ id ∈ l.opening, id ∉ l.completed
  /-- a stream that is open can be deleted once -/
  deletable : ∀ id err, l.map.deleteStream id = .error err → id ∈ l.completed ∨
    ¬ ∃ i : Nat, id = first + 4 * i ∧ id < l.map.nextStreamToOpen
  acceptable : ∀ err, l.map.acceptStream.1 ≠ .failed err

theorem Keeps.deletable (h : Keeps newStream first n l) {id : StreamID} {err : IncomingStreamError}
    (herr : l.map.deleteStream id = .error err) :
    id ∈ l.completed ∨ ¬ ∃ i : Nat, id = first + 4 * i ∧ id < l.map.nextStreamToOpen := by
  obtain ⟨o, hacc, hlive⟩ := h
  cases hentry : l.map.streams.lookup id with
  | none =>
    by_cases hopened : ∃ i : Nat, id = first + 4 * i ∧ id < l.map.nextStreamToOpen
    · obtain ⟨i, rfl, hlt⟩ := hopened
      rw [AList.lookup_eq_none, hacc.mem_iff, not_and_not_right] at hentry
      have htoOpen := hacc.toOpen
      have hmem := hentry ⟨i, by lia, rfl⟩
      exact .inl (hacc.deleted _ hmem).1
    · exact .inr hopened
  | some entry =>
    by_cases hid : id < l.map.nextStreamToAccept
    · obtain ⟨frame, heq⟩ := IncomingStreamsMap.deleteStream_accepted hid hentry
      rw [heq] at herr
      cases herr
    · rw [IncomingStreamsMap.deleteStream_waiting hid hentry] at herr
      split at herr
      · rename_i hdelete
        exact .inl ((hacc.entry id entry hentry).2.mp hdelete)
      · cases herr

theorem Keeps.accounted (h : Keeps newStream first n l) : Accounted newStream first n l := by
  have hkeeps := h
  obtain ⟨o, hacc, hlive⟩ := h
  refine ⟨hacc.limit, hacc.nodup, fun op hop => (hkeeps.step hop).2, hacc.length_le, hacc.accepted,
    ⟨hacc.toAccept, fun hlt => ?_⟩, fun id hid => (hacc.deleted id hid).1, fun id stream heq => ?_,
    fun id hid hcomp => ?_, fun id err herr => hkeeps.deletable herr, fun err heq => ?_⟩
  · obtain ⟨hnone, -⟩ | ⟨map, frame, heq, -⟩ := hacc.acceptStream_cases hlive
    · -- the next stream was opened, and only streams that were accepted are deleted
      rw [AList.lookup_eq_none, hacc.mem_iff, not_and_not_right] at hnone
      have htoOpen := hacc.toOpen
      have htoAccept := hacc.toAccept
      have hmem := hnone ⟨l.accepted.length, by lia, htoAccept⟩
      exact absurd (hacc.deleted _ hmem).2 (lt_irrefl _)
    · exact ⟨map, frame, heq⟩
  · rw [IncomingStreamsMap.lookupStream] at heq
    split at heq
    · cases heq
    · split at heq
      · split at heq
        · rename_i entry hentry
          have hdelete := (hacc.entry id entry hentry).2
          split at heq
          · cases heq
          · rename_i hnot
            exact mt hdelete.mpr hnot
        · cases heq
      · cases heq
  · obtain ⟨⟨i, hi, rfl⟩, -⟩ := hacc.opening id hid
    obtain ⟨j, hj, heq⟩ := hacc.completed _ hcomp
    lia
  · obtain ⟨-, hwaits⟩ | ⟨map, frame, hreturned, -⟩ := hacc.acceptStream_cases hlive
    · rw [hwaits] at heq
      cases heq
    · rw [hreturned] at heq
      cases heq

/-- **Incoming stream accounting**: in every state of every run in which the calls of
`GetOrOpenStream` follow one another, the limit is the one for the streams that were deleted, there
are never more streams than allowed, and `AcceptStream` returns the streams one after the other. -/
theorem incoming_accounted (newStream : StreamID → τ) (streamType : StreamType) (pers : Perspective)
    (hn : 1 ≤ n) (ops : List IncomingOp)
    (hops : EachStep (step newStream) (Allowed (firstIncomingStream streamType pers))
      (new streamType n pers) ops) :
    ∀ l ∈ states (step newStream) (new streamType n pers) ops,
      Accounted newStream (firstIncomingStream streamType pers) n l := by
  intro l hl
  have hkeeps : Keeps newStream (firstIncomingStream streamType pers) n l :=
    states_of_eachStep ops _ (fun _ _ _ h hop => (h.step hop).1) hops
      ⟨0, accounts_new streamType hn pers⟩ l hl
  exact hkeeps.accounted

/-- Three streams are opened at once; one is completed before it is accepted. -/
def earlyCompletion : List IncomingOp :=
  [.getOrOpenStream 8, .acceptStream, .openStreams 0, .deleteStream 4, .acceptStream, .acceptStream,
    .deleteStream 0]

theorem earlyCompletion_accounted :
    (run (step fun _ => ()) (new .bidi 3 .server) earlyCompletion).deleted = [4, 0] ∧
    (run (step fun _ => ()) (new .bidi 3 .server) earlyCompletion).map.maxStream = 16 ∧
    Accounted (fun _ => ()) 0 3 (run (step fun _ => ()) (new .bidi 3 .server) earlyCompletion) :=
  ⟨by decide, by decide,
    incoming_accounted (fun _ => ()) .bidi .server (by decide) earlyCompletion (by decide) _
      (run_mem_states _ _)⟩

end IncomingRun

end MoqQuic.Quic
