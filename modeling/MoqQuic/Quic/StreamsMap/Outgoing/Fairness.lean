import MoqQuic.Lib.Machine
import MoqQuic.Quic.StreamsMap.Outgoing

/-!
# MoqQuic.Quic.StreamsMap.Outgoing.Fairness

Goroutines that wait in `OpenStreamSync`.

Each waiting call has a channel with room for one signal. Only the head of the queue is ever sent a
signal, and it stays the head until it opens its stream or gives up, so nobody else can take its
stream. When it leaves the queue it hands the signal on.
-/

namespace MoqQuic.Quic

open Machine

variable {τ : Type}

/-- Where a call of `OpenStreamSync` is, once it waits. -/
inductive WaiterState where
  /-- in its `select` -/
  | waiting
  /-- it received from its channel, and is about to take the mutex -/
  | awake
  /-- its context is cancelled, and it is about to take the mutex -/
  | cancelling
  | done
  deriving DecidableEq, Repr

/-- A call of `OpenStreamSync` that had to wait, with its channel. -/
structure Waiter where
  state : WaiterState := .waiting
  /-- there is a signal in its channel -/
  signal : Bool := false
  /-- its channel is closed -/
  closed : Bool := false
  /-- its context is cancelled -/
  cancelled : Bool := false
  deriving DecidableEq, Repr

/-- There is a signal for the call, or it received it and is about to take the mutex. -/
def Waiter.Signalled (waiter : Waiter) : Prop := waiter.signal = true ∨ waiter.state = .awake

structure OpenSystem (τ : Type) where
  map : OutgoingStreamsMap τ
  /-- the calls that had to wait, in the order in which they came -/
  waiters : List Waiter := []
  /-- the IDs of the streams that were opened, in this order -/
  opened : List StreamID := []
  /-- the calls that waited and opened a stream, with its ID -/
  served : List (Nat × StreamID) := []

inductive OpenOp where
  | openStream
  /-- a call of `OpenStreamSync`; its context may already be cancelled -/
  | openStreamSync (cancelled : Bool)
  /-- the context of a call that waits is cancelled -/
  | cancel (w : Nat)
  /-- a call that waits receives from its channel -/
  | receive (w : Nat)
  /-- a call that waits notices that its context is cancelled -/
  | giveUp (w : Nat)
  /-- a call that waited takes the mutex -/
  | resume (w : Nat)
  | setMaxStream (id : StreamID)
  | closeWithError
  deriving DecidableEq, Repr

namespace OpenSystem

def new (streamType : StreamType) (pers : Perspective) : OpenSystem τ where
  map := newOutgoingStreamsMap streamType pers

/-- A send that does not block: the signal is dropped if there is one already. -/
def send (s : OpenSystem τ) : Option Nat → Except OpenStreamPanic (OpenSystem τ)
  | none => .ok s
  | some w =>
    match s.waiters[w]? with
    | none => .ok s
    | some waiter =>
      if waiter.closed then .error .sendOnClosedChannel
      else .ok { s with waiters := s.waiters.set w { waiter with signal := true } }

/-- Close the channels of the calls. -/
def closeAll (s : OpenSystem τ) (ws : List Nat) : OpenSystem τ :=
  { s with waiters := s.waiters.mapIdx fun w waiter =>
      if w ∈ ws then { waiter with closed := true } else waiter }

/-- The call changes its state. -/
def goTo (s : OpenSystem τ) (w : Nat) (waiter : Waiter) (state : WaiterState) : OpenSystem τ :=
  { s with waiters := s.waiters.set w { waiter with state := state } }

/-- A call that waited takes the mutex. -/
def resume (newStream : StreamID → τ) (s : OpenSystem τ) (w : Nat) (waiter : Waiter) :
    Except OpenStreamPanic (OpenSystem τ) :=
  match waiter.state with
  | .waiting | .done => .ok s
  | .cancelling =>
    let (map, signal) := s.map.cancelOpen w
    ({ s with map := map }.goTo w waiter .done).send signal
  | .awake => do
    match ← s.map.resumeOpen newStream with
    | (.waits, map, _) => return { s with map := map }.goTo w waiter .waiting
    | (.failed _, map, _) => return { s with map := map }.goTo w waiter .done
    | (.opened id, map, signal) =>
      ({ s with
        map := map
        opened := s.opened ++ [id]
        served := s.served ++ [(w, id)] }.goTo w waiter .done).send signal

def step [OutgoingStream τ] (newStream : StreamID → τ) (s : OpenSystem τ) :
    OpenOp → Except OpenStreamPanic (OpenSystem τ)
  | .openStream =>
    match s.map.tryOpenStream newStream with
    | (.error _, map) => .ok { s with map := map }
    | (.ok id, map) => .ok { s with map := map, opened := s.opened ++ [id] }
  | .openStreamSync cancelled =>
    match s.map.openStreamSync newStream cancelled s.waiters.length with
    | (.failed _, map) => .ok { s with map := map }
    | (.opened id, map) => .ok { s with map := map, opened := s.opened ++ [id] }
    | (.waits, map) => .ok { s with map := map, waiters := s.waiters ++ [{}] }
  | .cancel w =>
    match s.waiters[w]? with
    | none => .ok s
    | some waiter => .ok { s with waiters := s.waiters.set w { waiter with cancelled := true } }
  | .receive w =>
    match s.waiters[w]? with
    | none => .ok s
    | some waiter =>
      if waiter.state = .waiting ∧ (waiter.signal ∨ waiter.closed) then
        .ok (s.goTo w { waiter with signal := false } .awake)
      else .ok s
  | .giveUp w =>
    match s.waiters[w]? with
    | none => .ok s
    | some waiter =>
      if waiter.state = .waiting ∧ waiter.cancelled then .ok (s.goTo w waiter .cancelling)
      else .ok s
  | .resume w =>
    match s.waiters[w]? with
    | none => .ok s
    | some waiter => s.resume newStream w waiter
  | .setMaxStream id =>
    let (map, signal) := s.map.setMaxStream id
    { s with map := map }.send signal
  | .closeWithError =>
    let (map, closed) := s.map.closeWithError
    .ok ({ s with map := map }.closeAll closed)

/-! ## the queue -/

variable {s s' : OpenSystem τ} {q : List Nat} {ws : List Waiter} {closeErr : Bool}

/-- The queue and the calls that wait. -/
structure Queue (q : List Nat) (ws : List Waiter) (closeErr : Bool) : Prop where
  sorted : q.Pairwise (· < ·)
  queued : ∀ w ∈ q, ∃ waiter, ws[w]? = some waiter ∧ waiter.state ≠ .done ∧ waiter.closed = false
  running : closeErr = false → ∀ (w : Nat) (waiter : Waiter), ws[w]? = some waiter → waiter.state ≠ .done → w ∈ q
  emptied : closeErr = true → q = []
  /-- only the head has a signal -/
  head : closeErr = false → ∀ (w : Nat) (waiter : Waiter), ws[w]? = some waiter → waiter.state ≠ .done →
    waiter.Signalled → q.head? = some w
  channels : closeErr = false → ∀ (w : Nat) (waiter : Waiter), ws[w]? = some waiter → waiter.closed = false

/-- The head of the queue has a signal or is about to take the mutex. -/
def Pending (q : List Nat) (ws : List Waiter) : Prop :=
  ∀ w, q.head? = some w → ∃ waiter, ws[w]? = some waiter ∧
    (waiter.Signalled ∨ waiter.state = .cancelling)

theorem getElem?_set_cases {w v : Nat} {x y : Waiter} (h : (ws.set w x)[v]? = some y) :
    v = w ∧ y = x ∨ v ≠ w ∧ ws[v]? = some y := by
  by_cases hvw : w = v
  · subst hvw
    have hlt := (List.getElem?_eq_some_iff.mp h).1
    rw [List.length_set] at hlt
    rw [List.getElem?_set_self hlt] at h
    exact .inl ⟨rfl, (Option.some.inj h).symm⟩
  · rw [List.getElem?_set_ne hvw] at h
    exact .inr ⟨fun heq => hvw heq.symm, h⟩

variable {waiter waiter' : Waiter} {w : Nat}

theorem Queue.set (h : Queue q ws closeErr)
    (hw : ws[w]? = some waiter) (hstate : waiter'.state = .done ↔ waiter.state = .done)
    (hclosed : waiter'.closed = waiter.closed)
    (hsignal : closeErr = false → waiter.state ≠ .done → waiter'.Signalled →
      q.head? = some w) : Queue q (ws.set w waiter') closeErr := by
  have hlt := (List.getElem?_eq_some_iff.mp hw).1
  refine { h with
    queued := fun v hv => ?_
    running := fun hopen v y hy hdone => ?_
    head := fun hopen v y hy hdone hsig => ?_
    channels := fun hopen v y hy => ?_ }
  · obtain ⟨y, hy, hdone, hcl⟩ := h.queued v hv
    by_cases hvw : w = v
    · subst hvw
      rw [hw] at hy
      cases hy
      exact ⟨waiter', List.getElem?_set_self hlt, mt hstate.mp hdone, hclosed.trans hcl⟩
    · exact ⟨y, by rw [List.getElem?_set_ne hvw, hy], hdone, hcl⟩
  · obtain ⟨rfl, rfl⟩ | ⟨-, hold⟩ := getElem?_set_cases hy
    · exact h.running hopen v waiter hw (mt hstate.mpr hdone)
    · exact h.running hopen v y hold hdone
  · obtain ⟨rfl, rfl⟩ | ⟨-, hold⟩ := getElem?_set_cases hy
    · exact hsignal hopen (mt hstate.mpr hdone) hsig
    · exact h.head hopen v y hold hdone hsig
  · obtain ⟨rfl, rfl⟩ | ⟨-, hold⟩ := getElem?_set_cases hy
    · exact hclosed.trans (h.channels hopen v waiter hw)
    · exact h.channels hopen v y hold

theorem Pending.set (h : Pending q ws) (hw : ws[w]? = some waiter)
    (hkeep : waiter.Signalled ∨ waiter.state = .cancelling →
      waiter'.Signalled ∨ waiter'.state = .cancelling) : Pending q (ws.set w waiter') := by
  intro v hv
  obtain ⟨y, hy, hsig⟩ := h v hv
  by_cases hvw : w = v
  · subst hvw
    rw [hw] at hy
    cases hy
    exact ⟨waiter', List.getElem?_set_self (List.getElem?_eq_some_iff.mp hw).1, hkeep hsig⟩
  · exact ⟨y, by rw [List.getElem?_set_ne hvw, hy], hsig⟩

/-- A call leaves the queue. -/
theorem Queue.leave (h : Queue q ws closeErr) {waiter : Waiter} (waiter' : Waiter)
    (hw : ws[w]? = some waiter) (hdone : waiter'.state = .done)
    (hclosed : waiter'.closed = waiter.closed) :
    Queue (q.filter fun c => decide (c ≠ w)) (ws.set w waiter') closeErr := by
  have hmem : ∀ v, v ∈ q.filter (fun c => decide (c ≠ w)) ↔ v ∈ q ∧ v ≠ w := by
    simp [List.mem_filter]
  refine ⟨h.sorted.filter _, fun v hv => ?_, fun hopen v y hy hrun => ?_, fun herr => ?_,
    fun hopen v y hy hrun hsig => ?_, fun hopen v y hy => ?_⟩
  · obtain ⟨hv, hvw⟩ := (hmem v).mp hv
    obtain ⟨y, hy, hrun, hcl⟩ := h.queued v hv
    exact ⟨y, by rw [List.getElem?_set_ne (Ne.symm hvw), hy], hrun, hcl⟩
  · obtain ⟨rfl, rfl⟩ | ⟨hvw, hold⟩ := getElem?_set_cases hy
    · exact absurd hdone hrun
    · exact (hmem v).mpr ⟨h.running hopen v y hold hrun, hvw⟩
  · rw [h.emptied herr]
    rfl
  · obtain ⟨rfl, rfl⟩ | ⟨hvw, hold⟩ := getElem?_set_cases hy
    · exact absurd hdone hrun
    · have hhead := h.head hopen v y hold hrun hsig
      cases q with
      | nil => cases hhead
      | cons c rest =>
        cases hhead
        rw [List.filter_cons_of_pos (by simpa using hvw)]
        rfl
  · obtain ⟨rfl, rfl⟩ | ⟨-, hold⟩ := getElem?_set_cases hy
    · exact hclosed.trans (h.channels hopen v waiter hw)
    · exact h.channels hopen v y hold

/-- A call joins the queue. -/
theorem Queue.join (h : Queue q ws false) :
    Queue (q ++ [ws.length]) (ws ++ [({} : Waiter)]) false := by
  have hlt : ∀ v ∈ q, v < ws.length := by
    intro v hv
    obtain ⟨y, hy, -⟩ := h.queued v hv
    exact (List.getElem?_eq_some_iff.mp hy).1
  have hcases : ∀ v y, (ws ++ [({} : Waiter)])[v]? = some y →
      v = ws.length ∧ y = {} ∨ ws[v]? = some y := by
    intro v y hy
    obtain hv | hv := Nat.lt_or_ge v ws.length
    · rw [List.getElem?_append_left hv] at hy
      exact .inr hy
    · have hlen := (List.getElem?_eq_some_iff.mp hy).1
      rw [List.length_append, List.length_singleton] at hlen
      obtain rfl : v = ws.length := by omega
      rw [List.getElem?_append_right le_rfl, Nat.sub_self] at hy
      exact .inl ⟨rfl, (Option.some.inj hy).symm⟩
  refine ⟨List.pairwise_append.mpr ⟨h.sorted, by simp, by simpa using hlt⟩, fun v hv => ?_,
    fun hopen v y hy hrun => ?_, fun herr => absurd herr (by decide),
    fun hopen v y hy hrun hsig => ?_, fun hopen v y hy => ?_⟩
  · rw [List.mem_append, List.mem_singleton] at hv
    obtain hv | rfl := hv
    · obtain ⟨y, hy, hrun, hcl⟩ := h.queued v hv
      exact ⟨y, by rw [List.getElem?_append_left (hlt v hv), hy], hrun, hcl⟩
    · exact ⟨{}, by simp, by decide, rfl⟩
  · obtain ⟨rfl, rfl⟩ | hold := hcases v y hy
    · simp
    · exact List.mem_append_left _ (h.running hopen v y hold hrun)
  · obtain ⟨rfl, rfl⟩ | hold := hcases v y hy
    · simp [Waiter.Signalled] at hsig
    · rw [List.head?_append, h.head hopen v y hold hrun hsig]
      rfl
  · obtain ⟨rfl, rfl⟩ | hold := hcases v y hy
    · rfl
    · exact h.channels hopen v y hold

/-! ## the invariant -/

variable {first : Int} {newStream : StreamID → τ}

/-- The streams that were opened, and by whom. -/
structure Ordered (first : Int) (s : OpenSystem τ) : Prop where
  next : s.map.nextStream = first + 4 * s.opened.length
  opened : s.opened = (List.range s.opened.length).map fun i : Nat => first + 4 * i
  bounded : ∀ id ∈ s.opened, id ≤ s.map.maxStream
  served : s.served.Pairwise fun p p' => p.1 < p'.1 ∧ p.2 < p'.2
  served_lt : ∀ p ∈ s.served, p.2 < s.map.nextStream ∧ p.1 < s.waiters.length ∧
    ∀ w ∈ s.map.openQueue, p.1 < w

structure Fair (first : Int) (s : OpenSystem τ) : Prop where
  ordered : Ordered first s
  queue : Queue s.map.openQueue s.waiters s.map.closeErr
  pending : s.map.nextStream ≤ s.map.maxStream → Pending s.map.openQueue s.waiters

theorem send_unblock (hordered : Ordered first s)
    (hqueue : Queue s.map.openQueue s.waiters s.map.closeErr) :
    ∃ s', s.send s.map.maybeUnblockOpenSync = .ok s' ∧ Fair first s' := by
  rw [OutgoingStreamsMap.maybeUnblockOpenSync]
  cases hq : s.map.openQueue with
  | nil =>
    refine ⟨s, rfl, hordered, hqueue, fun _ w hw => ?_⟩
    rw [hq] at hw
    cases hw
  | cons c rest =>
    dsimp only
    by_cases hlimit : s.map.nextStream > s.map.maxStream
    · rw [if_pos hlimit]
      exact ⟨s, rfl, hordered, hqueue, fun hle => absurd hle (not_le.mpr hlimit)⟩
    · rw [if_neg hlimit]
      obtain ⟨waiter, hwaiter, -, hclosed⟩ := hqueue.queued c (by rw [hq]; exact List.mem_cons_self)
      refine ⟨{ s with waiters := s.waiters.set c { waiter with signal := true } }, ?_, ?_, ?_, ?_⟩
      · simp only [send, hwaiter, hclosed]
        rfl
      · exact { hordered with
          served_lt := fun p hp => by
            rw [List.length_set]
            exact hordered.served_lt p hp }
      · exact hqueue.set hwaiter Iff.rfl rfl fun _ _ _ => by rw [hq]; rfl
      · intro _ w hw
        rw [hq] at hw
        cases hw
        refine ⟨_, List.getElem?_set_self (List.getElem?_eq_some_iff.mp hwaiter).1, .inl (.inl rfl)⟩

theorem Ordered.openStream (h : Ordered first s) (newStream : StreamID → τ)
    (hle : s.map.nextStream ≤ s.map.maxStream) :
    Ordered first { s with
      map := (s.map.openStream newStream).2
      opened := s.opened ++ [s.map.nextStream] } := by
  have hnext := h.next
  refine ⟨?_, ?_, fun id hid => ?_, h.served, fun p hp => ?_⟩
  · simp only [OutgoingStreamsMap.openStream, List.length_append, List.length_singleton]
    lia
  · simp only [List.length_append, List.length_singleton, List.range_succ, List.map_append,
      List.map_singleton]
    rw [← h.opened, ← hnext]
  · rw [List.mem_append, List.mem_singleton] at hid
    obtain hid | rfl := hid
    · exact h.bounded id hid
    · exact hle
  · obtain ⟨hlt, hrest⟩ := h.served_lt p hp
    have hlt' : p.2 < s.map.nextStream + 4 := by lia
    exact ⟨hlt', hrest⟩

@[simp] theorem maybeSendBlockedFrame_frame (m : OutgoingStreamsMap τ) :
    m.maybeSendBlockedFrame.openQueue = m.openQueue ∧
    m.maybeSendBlockedFrame.nextStream = m.nextStream ∧
    m.maybeSendBlockedFrame.maxStream = m.maxStream ∧
    m.maybeSendBlockedFrame.closeErr = m.closeErr := by
  rw [OutgoingStreamsMap.maybeSendBlockedFrame]
  split
  · exact ⟨rfl, rfl, rfl, rfl⟩
  · exact ⟨rfl, rfl, rfl, rfl⟩

section

variable (h : Fair first s)

include h

/-- Only the fields that are about the queue and the limit matter. -/
theorem Fair.of_map {map : OutgoingStreamsMap τ}
    (hqueue : map.openQueue = s.map.openQueue) (hnext : map.nextStream = s.map.nextStream)
    (hmax : map.maxStream = s.map.maxStream) (herr : map.closeErr = s.map.closeErr) :
    Fair first { s with map := map } := by
  obtain ⟨⟨h1, h2, h3, h4, h5⟩, hq, hp⟩ := h
  rw [← hnext] at h1 h5
  rw [← hmax] at h3
  rw [← hqueue] at h5 hq hp
  rw [← herr] at hq
  rw [← hnext, ← hmax] at hp
  exact ⟨⟨h1, h2, h3, h4, h5⟩, hq, hp⟩

/-! ## the steps -/

/-- A stream is opened while nobody waits. -/
theorem Fair.openStream (hnil : s.map.openQueue = []) (hle : s.map.nextStream ≤ s.map.maxStream) :
    Fair first { s with
      map := (s.map.openStream newStream).2
      opened := s.opened ++ [s.map.nextStream] } := by
  refine ⟨h.ordered.openStream newStream hle, h.queue, fun _ w hw => ?_⟩
  have hsame : (s.map.openStream newStream).2.openQueue = s.map.openQueue := rfl
  rw [hsame, hnil] at hw
  cases hw

theorem Fair.join (herr : s.map.closeErr = false)
    (hwait : ¬ (s.map.openQueue.length = 0 ∧ s.map.nextStream ≤ s.map.maxStream)) :
    Fair first { s with
      map := { s.map with
        openQueue := s.map.openQueue ++ [s.waiters.length] }.maybeSendBlockedFrame
      waiters := s.waiters ++ [{}] } := by
  have hqueue := h.queue
  rw [herr] at hqueue
  have hbefore : Fair first { s with
      map := { s.map with openQueue := s.map.openQueue ++ [s.waiters.length] }
      waiters := s.waiters ++ [{}] } := by
    refine ⟨{ h.ordered with served_lt := fun p hp => ?_ }, ?_, fun hle w hw => ?_⟩
    · obtain ⟨hid, hlt, hall⟩ := h.ordered.served_lt p hp
      refine ⟨hid, by rw [List.length_append]; omega, fun w hw => ?_⟩
      rw [List.mem_append, List.mem_singleton] at hw
      obtain hw | rfl := hw
      · exact hall w hw
      · exact hlt
    · dsimp only
      rw [herr]
      exact hqueue.join
    · -- somebody else is the head
      cases hq : s.map.openQueue with
      | nil => exact absurd ⟨by rw [hq]; rfl, hle⟩ hwait
      | cons c rest =>
        have hpending := h.pending hle
        rw [hq] at hpending hw
        cases hw
        obtain ⟨waiter, hwaiter, hsig⟩ := hpending w rfl
        refine ⟨waiter, ?_, hsig⟩
        rw [List.getElem?_append_left (List.getElem?_eq_some_iff.mp hwaiter).1, hwaiter]
  have hframe := maybeSendBlockedFrame_frame
    { s.map with openQueue := s.map.openQueue ++ [s.waiters.length] }
  exact hbefore.of_map hframe.1 hframe.2.1 hframe.2.2.1 hframe.2.2.2

/-- A waiting call takes the mutex. -/
theorem Fair.resume {waiter : Waiter} (hw : s.waiters[w]? = some waiter) :
    ∃ s', s.resume newStream w waiter = .ok s' ∧ Fair first s' := by
  have hordered := h.ordered
  rw [OpenSystem.resume]
  cases hstate : waiter.state with
  | waiting | done => exact ⟨s, rfl, h⟩
  | cancelling =>
    refine send_unblock (s := { s with map := (s.map.cancelOpen w).1 }.goTo w waiter .done) ?_ ?_
    · refine { hordered with served_lt := fun p hp => ?_ }
      obtain ⟨hid, hlt, hall⟩ := hordered.served_lt p hp
      refine ⟨hid, by rw [goTo, List.length_set]; exact hlt, fun v hv => ?_⟩
      exact hall v (List.mem_of_mem_filter hv)
    · exact h.queue.leave _ hw rfl rfl
  | awake =>
    dsimp only
    cases herr : s.map.closeErr with
    | true =>
      have hresume : s.map.resumeOpen newStream = .ok (.failed .closed, s.map, none) := by
        rw [OutgoingStreamsMap.resumeOpen, if_pos herr]
      have hnil := h.queue.emptied herr
      rw [hresume]
      refine ⟨s.goTo w waiter .done, rfl, ?_, ?_, fun _ v hv => ?_⟩
      · exact { hordered with
          served_lt := fun p hp => by
            rw [goTo, List.length_set]
            exact hordered.served_lt p hp }
      · have hleave := h.queue.leave { waiter with state := .done } hw rfl rfl
        rw [hnil] at hleave
        simp only [goTo, hnil]
        exact hleave
      · simp only [goTo, hnil] at hv
        cases hv
    | false =>
      by_cases hlimit : s.map.nextStream > s.map.maxStream
      · have hresume : s.map.resumeOpen newStream = .ok (.waits, s.map, none) := by
          rw [OutgoingStreamsMap.resumeOpen, if_neg (by simp [herr]), if_pos hlimit]
        rw [hresume]
        refine ⟨s.goTo w waiter .waiting, rfl, ?_, ?_, fun hle => ?_⟩
        · exact { hordered with
            served_lt := fun p hp => by
              rw [goTo, List.length_set]
              exact hordered.served_lt p hp }
        · refine h.queue.set hw (by simp [hstate]) rfl fun hopen hdone hsig => ?_
          exact h.queue.head hopen w waiter hw hdone (.inr hstate)
        · exact absurd hle (not_le.mpr hlimit)
      · -- the call is the head of the queue
        have hhead := h.queue.head herr w waiter hw (by simp [hstate]) (.inr hstate)
        have hle : s.map.nextStream ≤ s.map.maxStream := not_lt.mp hlimit
        have hsorted := h.queue.sorted
        have hleave := h.queue.leave { waiter with state := .done } hw rfl rfl
        cases hq : s.map.openQueue with
        | nil =>
          rw [hq] at hhead
          cases hhead
        | cons c rest =>
          rw [hq] at hhead hsorted hleave
          cases hhead
          rw [List.pairwise_cons] at hsorted
          have hrest : (w :: rest).filter (fun v => decide (v ≠ w)) = rest := by
            rw [List.filter_cons_of_neg (by simp), List.filter_eq_self]
            intro v hv
            simpa using (hsorted.1 v hv).ne'
          rw [hrest] at hleave
          have hresume : s.map.resumeOpen newStream = .ok (.opened s.map.nextStream,
              { (s.map.openStream newStream).2 with openQueue := rest },
              { (s.map.openStream newStream).2 with
                openQueue := rest }.maybeUnblockOpenSync) := by
            have hsame : (s.map.openStream newStream).2.openQueue = w :: rest := hq
            rw [OutgoingStreamsMap.resumeOpen, if_neg (by simp [herr]), if_neg hlimit]
            simp only [hsame]
            rfl
          rw [hresume]
          refine send_unblock (s := { s with
            map := { (s.map.openStream newStream).2 with openQueue := rest }
            opened := s.opened ++ [s.map.nextStream]
            served := s.served ++ [(w, s.map.nextStream)] }.goTo w waiter .done) ?_ hleave
          have hopened := hordered.openStream newStream hle
          have hlt := (List.getElem?_eq_some_iff.mp hw).1
          have hnext : s.map.nextStream < s.map.nextStream + 4 :=
            Int.lt_add_of_pos_right _ (by decide)
          refine ⟨hopened.next, hopened.opened, hopened.bounded, ?_, fun p hp => ?_⟩
          · refine List.pairwise_append.mpr ⟨hordered.served, by simp, fun p hp p' hp' => ?_⟩
            obtain ⟨hid, -, hall⟩ := hordered.served_lt p hp
            rw [List.mem_singleton.mp hp']
            exact ⟨hall w (by rw [hq]; exact List.mem_cons_self), hid⟩
          · rw [goTo, List.length_set]
            obtain hp | hp := List.mem_append.mp hp
            · obtain ⟨hid, hlen, hall⟩ := hordered.served_lt p hp
              exact ⟨hid.trans hnext, hlen,
                fun v hv => hall v (by rw [hq]; exact List.mem_cons_of_mem _ hv)⟩
            · rw [List.mem_singleton.mp hp]
              exact ⟨hnext, hlt, hsorted.1⟩

theorem Fair.setMaxStream (id : StreamID) :
    ∃ s', { s with map := (s.map.setMaxStream id).1 }.send (s.map.setMaxStream id).2 = .ok s' ∧
      Fair first s' := by
  by_cases hle : id ≤ s.map.maxStream
  · rw [OutgoingStreamsMap.setMaxStream, if_pos hle]
    exact ⟨s, rfl, h⟩
  · have hlt : s.map.maxStream < id := not_le.mp hle
    have heq : (s.map.setMaxStream id).2 = (s.map.setMaxStream id).1.maybeUnblockOpenSync := by
      rw [OutgoingStreamsMap.setMaxStream, if_neg hle]
    have hframe : (s.map.setMaxStream id).1.openQueue = s.map.openQueue ∧
        (s.map.setMaxStream id).1.nextStream = s.map.nextStream ∧
        (s.map.setMaxStream id).1.maxStream = id ∧
        (s.map.setMaxStream id).1.closeErr = s.map.closeErr := by
      rw [OutgoingStreamsMap.setMaxStream, if_neg hle]
      dsimp only
      split
      · exact maybeSendBlockedFrame_frame _
      · exact ⟨rfl, rfl, rfl, rfl⟩
    obtain ⟨hqueue, hnext, hmax, herr⟩ := hframe
    rw [heq]
    generalize (s.map.setMaxStream id).1 = map at *
    refine send_unblock (s := { s with map := map }) ⟨?_, h.ordered.opened, fun x hx => ?_,
      h.ordered.served, ?_⟩ ?_
    · exact hnext.trans h.ordered.next
    · dsimp only
      rw [hmax]
      exact (h.ordered.bounded x hx).trans hlt.le
    · dsimp only
      rw [hnext, hqueue]
      exact h.ordered.served_lt
    · dsimp only
      rw [hqueue, herr]
      exact h.queue

theorem Fair.closeWithError [OutgoingStream τ] :
    Fair first ({ s with map := s.map.closeWithError.1 }.closeAll s.map.closeWithError.2) := by
  refine ⟨{ h.ordered with served_lt := fun p hp => ?_ }, ⟨.nil, ?_, ?_, fun _ => rfl, ?_, ?_⟩,
    fun _ w hw => by cases hw⟩
  · obtain ⟨hid, hlt, -⟩ := h.ordered.served_lt p hp
    refine ⟨hid, by rw [closeAll, List.length_mapIdx]; exact hlt, fun w hw => ?_⟩
    exact absurd hw List.not_mem_nil
  · exact fun w hw => absurd hw List.not_mem_nil
  · exact fun hopen => by cases hopen
  · exact fun hopen => by cases hopen
  · exact fun hopen => by cases hopen

/-- A change of a call that leaves it in the queue. -/
theorem Fair.set
    (hw : s.waiters[w]? = some waiter) (hstate : waiter'.state = .done ↔ waiter.state = .done)
    (hclosed : waiter'.closed = waiter.closed)
    (hsignal : s.map.closeErr = false → waiter.state ≠ .done → waiter'.Signalled →
      s.map.openQueue.head? = some w)
    (hkeep : waiter.Signalled ∨ waiter.state = .cancelling →
      waiter'.Signalled ∨ waiter'.state = .cancelling) :
    Fair first { s with waiters := s.waiters.set w waiter' } where
  ordered := { h.ordered with
    served_lt := fun p hp => by
      rw [List.length_set]
      exact h.ordered.served_lt p hp }
  queue := h.queue.set hw hstate hclosed hsignal
  pending hle := (h.pending hle).set hw hkeep

theorem Fair.step [OutgoingStream τ] (newStream : StreamID → τ) (op : OpenOp) :
    ∃ s', s.step newStream op = .ok s' ∧ Fair first s' := by
  cases op with
  | openStream =>
    rw [OpenSystem.step, OutgoingStreamsMap.tryOpenStream]
    by_cases herr : s.map.closeErr
    · rw [if_pos herr]
      exact ⟨s, rfl, h⟩
    · by_cases hlimit : s.map.openQueue.length > 0 ∨ s.map.nextStream > s.map.maxStream
      · rw [if_neg herr, if_pos hlimit]
        have hframe := maybeSendBlockedFrame_frame s.map
        exact ⟨_, rfl, h.of_map hframe.1 hframe.2.1 hframe.2.2.1 hframe.2.2.2⟩
      · rw [if_neg herr, if_neg hlimit]
        rw [not_or, not_lt, Nat.le_zero, List.length_eq_zero_iff, not_lt] at hlimit
        exact ⟨_, rfl, h.openStream hlimit.1 hlimit.2⟩
  | openStreamSync cancelled =>
    rw [OpenSystem.step, OutgoingStreamsMap.openStreamSync]
    by_cases herr : s.map.closeErr
    · rw [if_pos herr]
      exact ⟨s, rfl, h⟩
    · by_cases hcancelled : cancelled
      · rw [if_neg herr, if_pos hcancelled]
        exact ⟨s, rfl, h⟩
      · rw [if_neg herr, if_neg hcancelled]
        by_cases hopen : s.map.openQueue.length = 0 ∧ s.map.nextStream ≤ s.map.maxStream
        · rw [if_pos hopen]
          exact ⟨_, rfl, h.openStream (List.length_eq_zero_iff.mp hopen.1) hopen.2⟩
        · rw [if_neg hopen]
          exact ⟨_, rfl, h.join (Bool.not_eq_true _ ▸ herr) hopen⟩
  | cancel w =>
    rw [OpenSystem.step]
    cases hw : s.waiters[w]? with
    | none => exact ⟨s, rfl, h⟩
    | some waiter =>
      exact ⟨_, rfl, h.set hw Iff.rfl rfl (fun hopen hdone => h.queue.head hopen w waiter hw hdone)
        id⟩
  | receive w =>
    rw [OpenSystem.step]
    cases hw : s.waiters[w]? with
    | none => exact ⟨s, rfl, h⟩
    | some waiter =>
      dsimp only
      split
      · rename_i hready
        refine ⟨_, rfl, h.set hw (by simp [hready.1]) rfl (fun hopen hdone _ => ?_)
          fun _ => .inl (.inr rfl)⟩
        obtain hsignal | hclosed := hready.2
        · exact h.queue.head hopen w waiter hw hdone (.inl hsignal)
        · rw [h.queue.channels hopen w waiter hw] at hclosed
          cases hclosed
      · exact ⟨s, rfl, h⟩
  | giveUp w =>
    rw [OpenSystem.step]
    cases hw : s.waiters[w]? with
    | none => exact ⟨s, rfl, h⟩
    | some waiter =>
      dsimp only
      split
      · rename_i hready
        refine ⟨_, rfl, h.set hw (by simp [hready.1]) rfl (fun hopen hdone hsig => ?_)
          fun _ => .inr rfl⟩
        obtain hsignal | hawake := hsig
        · exact h.queue.head hopen w waiter hw hdone (.inl hsignal)
        · cases hawake
      · exact ⟨s, rfl, h⟩
  | resume w =>
    rw [OpenSystem.step]
    cases hw : s.waiters[w]? with
    | none => exact ⟨s, rfl, h⟩
    | some waiter => exact h.resume hw
  | setMaxStream id => exact h.setMaxStream id
  | closeWithError => exact ⟨_, rfl, h.closeWithError⟩

end

theorem fair_new (streamType : StreamType) (pers : Perspective) :
    Fair (firstOutgoingStream streamType pers) (new streamType pers : OpenSystem τ) where
  ordered := ⟨by simp [new, newOutgoingStreamsMap], rfl, by simp [new], .nil, by simp [new]⟩
  queue := ⟨.nil, by simp [new, newOutgoingStreamsMap], by simp [new], fun _ => rfl, by simp [new],
    by simp [new]⟩
  pending _ w hw := by cases hw

/-- **Opening streams is fair, bounded and never stuck**: in every state of every run, the IDs that
were handed out follow one another and are within the limit; the calls that waited got their streams
in the order in which they came; a call that is about to open a stream is the head of the queue; and
if the head can open a stream, it has a signal or is about to take the mutex. No step panics. -/
theorem openStreams_fair [OutgoingStream τ] (newStream : StreamID → τ) (streamType : StreamType)
    (pers : Perspective) {s : OpenSystem τ}
    (hs : Reaches (step newStream) (fun _ _ => True) (new streamType pers) s) :
    s.opened = (List.range s.opened.length).map
      (fun i : Nat => firstOutgoingStream streamType pers + 4 * i) ∧
    s.map.nextStream = firstOutgoingStream streamType pers + 4 * s.opened.length ∧
    (∀ id ∈ s.opened, id ≤ s.map.maxStream) ∧
    (s.served.Pairwise fun p p' => p.1 < p'.1 ∧ p.2 < p'.2) ∧
    (∀ p ∈ s.served, ∀ w ∈ s.map.openQueue, p.1 < w) ∧
    (∀ (w : Nat) (waiter : Waiter), s.waiters[w]? = some waiter → waiter.state = .awake →
      s.map.closeErr = false → s.map.openQueue.head? = some w) ∧
    (∀ w, s.map.openQueue.head? = some w → s.map.nextStream ≤ s.map.maxStream →
      s.map.closeErr = false → ∃ waiter, s.waiters[w]? = some waiter ∧
        (waiter.signal = true ∨ waiter.state = .awake ∨ waiter.state = .cancelling)) ∧
    (∀ op, ∃ s', s.step newStream op = .ok s') := by
  have h : Fair (firstOutgoingStream streamType pers) s := by
    refine hs.invariant (fair_new streamType pers) fun s op s' h _ hstep => ?_
    obtain ⟨s'', hstep', h'⟩ := h.step newStream op
    rw [hstep] at hstep'
    cases hstep'
    exact h'
  refine ⟨h.ordered.opened, h.ordered.next, h.ordered.bounded, h.ordered.served,
    fun p hp => (h.ordered.served_lt p hp).2.2, fun w waiter hw hawake hopen => ?_,
    fun w hw hle _ => ?_, fun op => ?_⟩
  · exact h.queue.head hopen w waiter hw (by simp [hawake]) (.inr hawake)
  · obtain ⟨waiter, hwaiter, hsig⟩ := h.pending hle w hw
    refine ⟨waiter, hwaiter, ?_⟩
    rw [Waiter.Signalled] at hsig
    exact or_assoc.mp hsig
  · obtain ⟨s', hstep, -⟩ := h.step newStream op
    exact ⟨s', hstep⟩

/-- The queue does not look at the streams. -/
instance : OutgoingStream Unit where
  updateSendWindow str _ := str
  enableResetStreamAt := id
  closeForShutdown := id

/-- Two calls wait; the first one is sent a signal, but its context is cancelled. -/
def cancelledHead : List OpenOp :=
  [.openStreamSync false, .openStreamSync false, .setMaxStream 0, .cancel 0, .giveUp 0, .resume 0,
    .receive 1, .resume 1]

theorem cancelledHead_fair :
    ∃ s : OpenSystem Unit, cancelledHead.foldlM (step fun _ => ()) (new .bidi .client) = .ok s ∧
      s.served = [(1, 0)] ∧ ∀ id ∈ s.opened, id ≤ s.map.maxStream :=
  ⟨_, rfl, by decide, (openStreams_fair (fun _ => ()) .bidi .client
    (reaches_foldlM cancelledHead (by decide) rfl .refl)).2.2.1⟩

end OpenSystem

end MoqQuic.Quic
