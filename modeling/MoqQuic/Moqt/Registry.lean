import MoqQuic.Moqt.Relay.Messages

/-!
# MoqQuic.Moqt.Registry

The tables of `sessionmanager.go` over the life of sessions: `CreateMOQSession` and
`Close` of `moqtsession.go`, and the relay's handlers of `ANNOUNCE` and `SUBSCRIBE`,
each as one step.

A session is an object, and `Id` is its first eight hexadecimal digits of a random
UUID, so two sessions may have one `Id`; `sessions` is keyed by `Id`.  `Close` takes
the session out of `sessions` but its namespaces stay, and nothing calls
`removePublisher`.  `registry_consistent_iff` gives the exact condition on the steps
of a run under which every registered publisher is an open session.
-/

namespace MoqQuic.Moqt

open Wire

def ROLE_PUBLISHER : Nat := 0x01
def ROLE_SUBSCRIBER : Nat := 0x02
def ROLE_RELAY : Nat := 0x03

/-- The types that implement `Handler`. -/
inductive HandlerType where
  | relay
  | pub
  | sub
  deriving DecidableEq, Repr

def createNewHandler (role : Nat) : Option HandlerType :=
  if role = ROLE_RELAY then some .relay
  else if role = ROLE_PUBLISHER then some .pub
  else if role = ROLE_SUBSCRIBER then some .sub
  else none

variable {H : Type}

/-- The session manager and the relay. -/
structure Registry (H : Type) where
  sessions : AList fun _ : Bytes => H := ∅
  /-- the sessions that `CreateMOQSession` has returned, with their handlers -/
  created : List (H × HandlerType) := []
  /-- the sessions that have been closed -/
  closed : List H := []
  relay : State H := {}

/-- Between the two states, a `SUBSCRIBE` was written to the session or a subscriber was
added to one of its relay streams. -/
def State.Reaches (s s' : State H) (publisher : H) : Prop :=
  (∃ subid, (publisher, subid) ∈ s'.unanswered.drop s.unanswered.length) ∨
    ∃ (ref : Nat) (rs' : RelayStream H) (h : H), s'.relayStreams[ref]? = some rs' ∧
      rs'.publisher = publisher ∧ h ∈ rs'.subscribers ∧
        ∀ rs : RelayStream H, s.relayStreams[ref]? = some rs → h ∉ rs.subscribers

/-- The relay streams in `IncomingStreams` are the session's own. -/
def State.OwnStreams (s : State H) : Prop :=
  ∀ publisher subid ref, (s.incomingStreams publisher).lookup subid = some ref →
    ∃ rs : RelayStream H, s.relayStreams[ref]? = some rs ∧ rs.publisher = publisher

inductive Event (H : Type) where
  | create (session : H) (localRole : Nat)
  | announce (session : H) (msg : Announce)
  | subscribe (session : H) (msg : Subscribe) (pick : Nat) (draw : UInt32)
  | close (session : H)

namespace Registry

section Definitions

variable [DecidableEq H] (id : H → Bytes)

def createMOQSession (r : Registry H) (session : H) (localRole : Nat) : Registry H :=
  match createNewHandler localRole with
  | none => r
  | some handler =>
    { r with
      sessions := r.sessions.insert (id session) session
      created := r.created ++ [(session, handler)] }

/-- `Close`; only the relay's `HandleClose` does something. -/
def close (r : Registry H) (session : H) : Registry H :=
  { r with
    sessions := r.sessions.erase (id session)
    closed := r.closed ++ [session]
    relay := if (session, .relay) ∈ r.created then r.relay.handleClose session else r.relay }

/-- A session object is created once, and only created sessions do something; the
publisher's and the subscriber's handlers leave the session manager alone. -/
def step (r : Registry H) : Event H → Registry H
  | .create session localRole =>
    if session ∈ r.created.map Prod.fst then r else r.createMOQSession id session localRole
  | .announce session msg =>
    if (session, .relay) ∈ r.created then
      { r with relay := r.relay.handle (.announce session msg) }
    else r
  | .subscribe session msg pick draw =>
    if (session, .relay) ∈ r.created then
      { r with relay := r.relay.handle (.subscribe session msg pick draw) }
    else r
  | .close session => if session ∈ r.created.map Prod.fst then r.close id session else r

/-! ## consistency -/

/-- The session is in the table under its `Id`. -/
def Registered (r : Registry H) (session : H) : Prop := r.sessions.lookup (id session) = some session

/-- The step writes a `SUBSCRIBE` to the session or adds a subscriber to one of its relay
streams. -/
def Reaches (r : Registry H) (e : Event H) (publisher : H) : Prop :=
  r.relay.Reaches (r.step id e).relay publisher

/-- Every registered publisher is in the table, and a `SUBSCRIBE` reaches only open
sessions. -/
def Consistent (r : Registry H) : Prop :=
  (∀ ns publisher, r.relay.namespaces.lookup ns = some publisher → r.Registered id publisher) ∧
    ∀ session msg pick draw publisher, r.Reaches id (.subscribe session msg pick draw) publisher →
      r.Registered id publisher ∧ publisher ∉ r.closed

/-- A new session has the `Id` of no registered publisher, a session that announces is in
the table, and a session is closed when none with its `Id` is a registered publisher. -/
def KeepsRegistry (r : Registry H) : Event H → Prop
  | .create session localRole => session ∉ r.created.map Prod.fst →
      (createNewHandler localRole).isSome →
        ∀ ns publisher, r.relay.namespaces.lookup ns = some publisher → id publisher ≠ id session
  | .announce session _ => (session, .relay) ∈ r.created → r.Registered id session
  | .subscribe _ _ _ _ => True
  | .close session => session ∈ r.created.map Prod.fst →
      ∀ ns publisher, r.relay.namespaces.lookup ns = some publisher → id publisher ≠ id session

end Definitions

/-- What holds in every run: the table holds open sessions under their `Id`, and the
relay streams of a session are its own. -/
structure Inv (id : H → Bytes) (r : Registry H) : Prop where
  resting : r.relay.Resting
  incoming : r.relay.OwnStreams
  sessions : ∀ i session, r.sessions.lookup i = some session →
    i = id session ∧ session ∈ r.created.map Prod.fst ∧ session ∉ r.closed
  closed : r.closed ⊆ r.created.map Prod.fst

theorem inv_init (id : H → Bytes) : Inv id ({} : Registry H) :=
  ⟨resting_init, nofun, nofun, List.nil_subset _⟩

variable {r : Registry H} {s s' : State H} {publisher : H}

/-- The relay streams of a session stay its own. -/
theorem incoming_same (hi : s.OwnStreams) (hincoming : s'.incomingStreams = s.incomingStreams)
    (hsame : SameStreams s.relayStreams s'.relayStreams) : s'.OwnStreams := by
  intro publisher subid ref hlookup
  rw [hincoming] at hlookup
  obtain ⟨rs, hrs, hpub⟩ := hi publisher subid ref hlookup
  obtain ⟨rs', hrs', -, -, hpub', -⟩ := hsame.symm.fields hrs
  exact ⟨rs', hrs', hpub'.trans hpub⟩

theorem not_reaches_self (s : State H) (publisher : H) : ¬ s.Reaches s publisher := by
  rintro (⟨subid, hmem⟩ | ⟨ref, rs, h, hrs, -, hin, hout⟩)
  · simp at hmem
  · exact hout rs hrs hin

variable [DecidableEq H] {id : H → Bytes} {msg : Subscribe}

theorem reaches_cached {h : H} {ref : Nat} {rs : RelayStream H}
    (hj : s.Joined s h msg ref s') (hrs : s.relayStreams[ref]? = some rs)
    (hr : s.Reaches s' publisher) : rs.publisher = publisher := by
  obtain ⟨subid, hmem⟩ | ⟨ref', rs', h', hrs', hpub, hin, hout⟩ := hr
  · simp [hj.unanswered] at hmem
  · rw [hj.relayStreams] at hrs'
    have hrs'' : (s.addSubscriber ref h).relayStreams[ref']? = some rs' := hrs'
    obtain ⟨rs₁, hrs₁, rfl⟩ := getElem?_addSubscriber_of hrs''
    split at hin
    · next heq =>
      subst heq
      rw [hrs, Option.some.injEq] at hrs₁
      subst hrs₁
      simpa [RelayStream.addSubscriber] using hpub
    · exact absurd hin (hout rs₁ hrs₁)

theorem reaches_opened {h : H} {draw : UInt32}
    (hj : s.Joined (s.sendSubscribe h msg publisher draw) h msg s.relayStreams.length s')
    {publisher' : H} (hr : s.Reaches s' publisher') : publisher = publisher' := by
  obtain ⟨subid, hmem⟩ | ⟨ref', rs', h', hrs', hpub, hin, hout⟩ := hr
  · rw [hj.unanswered, unanswered_sendSubscribe, List.drop_left, List.mem_singleton,
      Prod.mk.injEq] at hmem
    exact hmem.1.symm
  · rw [hj.relayStreams] at hrs'
    have hrs'' : ((s.sendSubscribe h msg publisher draw).addSubscriber s.relayStreams.length
        h).relayStreams[ref']? = some rs' := hrs'
    obtain ⟨rs₁, hrs₁, rfl⟩ := getElem?_addSubscriber_of hrs''
    obtain hold | ⟨rfl, rfl⟩ := getElem?_sendSubscribe hrs₁
    · have hlt := (List.getElem?_eq_some_iff.mp hold).1
      rw [if_neg (by omega)] at hin
      exact absurd hin (hout rs₁ hold)
    · rw [if_pos rfl] at hpub
      exact hpub

/-- The publisher that `HandleSubscribe` reaches is the one `getPublisher` returns. -/
theorem reaches_publisher (hi : r.Inv id) {session : H} {pick : Nat}
    {draw : UInt32} (hr : r.Reaches id (.subscribe session msg pick draw) publisher) :
    r.relay.namespaces.lookup msg.trackNameSpace = some publisher := by
  rw [Reaches, step] at hr
  split at hr
  · obtain ⟨-, hsame⟩ | ⟨publisher', hpub, hjoined⟩ := handle_subscribe hi.resting session msg pick draw
    · rw [hsame] at hr
      exact absurd hr (not_reaches_self r.relay publisher)
    · rw [hpub, Option.some.injEq]
      obtain ⟨ref, hfind, -, hj⟩ | ⟨-, hj⟩ := hjoined
      · obtain ⟨⟨subid, hlookup⟩, -⟩ := StreamsMap.streamIDGetStream_eq_some hfind
        obtain ⟨rs, hrs, hown⟩ := hi.incoming publisher' subid ref hlookup
        exact hown.symm.trans (reaches_cached hj hrs hr)
      · exact reaches_opened hj hr
  · exact absurd hr (not_reaches_self r.relay publisher)

/-- Every registered publisher is in the table. -/
def Backed (id : H → Bytes) (r : Registry H) : Prop :=
  ∀ ns publisher, r.relay.namespaces.lookup ns = some publisher → r.Registered id publisher

theorem consistent_iff_backed (hi : r.Inv id) : r.Consistent id ↔ r.Backed id := by
  refine ⟨And.left, fun hb => ⟨hb, fun session msg pick draw publisher hr => ?_⟩⟩
  have hreg := hb _ publisher (reaches_publisher hi hr)
  exact ⟨hreg, (hi.sessions _ _ hreg).2.2⟩

/-! ## steps -/

theorem incoming_opened {s : State H} (h : H) (msg : Subscribe) (publisher : H) (draw : UInt32)
    (hi : s.OwnStreams) : (s.sendSubscribe h msg publisher draw).OwnStreams := by
  intro publisher' subid ref hlookup
  rw [incoming_sendSubscribe] at hlookup
  split at hlookup
  · next heq =>
    cases hlookup
    exact ⟨_, getElem?_sendSubscribe_new s h msg publisher draw, heq.1.symm⟩
  · obtain ⟨rs, hrs, hpub⟩ := hi publisher' subid ref hlookup
    exact ⟨rs, getElem?_sendSubscribe_old hrs, hpub⟩

theorem relay_subscribe {s : State H} (hr : s.Resting) (hi : s.OwnStreams)
    (h : H) (msg : Subscribe) (pick : Nat) (draw : UInt32) :
    (s.handle (.subscribe h msg pick draw)).namespaces = s.namespaces ∧
      (s.handle (.subscribe h msg pick draw)).Resting ∧
      (s.handle (.subscribe h msg pick draw)).OwnStreams := by
  obtain ⟨-, hsame⟩ | ⟨publisher, -, hjoined⟩ := handle_subscribe hr h msg pick draw
  · rw [hsame]
    exact ⟨rfl, hr, hi⟩
  · obtain ⟨ref, -, -, hj⟩ | ⟨-, hj⟩ := hjoined
    · refine ⟨hj.namespaces, hj.resting, incoming_same hi hj.incomingStreams ?_⟩
      rw [hj.relayStreams]
      exact sameStreams_addSubscriber s ref h
    · refine ⟨hj.namespaces, hj.resting,
        incoming_same (incoming_opened h msg publisher draw hi) hj.incomingStreams ?_⟩
      rw [hj.relayStreams]
      exact sameStreams_addSubscriber (s.sendSubscribe h msg publisher draw) _ h

theorem relay_close {s : State H} (hr : s.Resting) (hi : s.OwnStreams) (h : H)
    (created : List (H × HandlerType)) :
    (if (h, .relay) ∈ created then s.handleClose h else s).namespaces = s.namespaces ∧
      (if (h, .relay) ∈ created then s.handleClose h else s).Resting ∧
      (if (h, .relay) ∈ created then s.handleClose h else s).OwnStreams := by
  split
  · have ht := thinned_handleClose s h
    have hrest := ht.rest
    refine ⟨by rw [hrest], ⟨?_, ?_, ?_⟩, incoming_same hi (by rw [hrest]) ht.same⟩
    · rw [hrest]
      exact hr.pc
    · rw [hrest]
      exact hr.dataStreams
    · rw [hrest]
      exact hr.processing
  · exact ⟨rfl, hr, hi⟩

/-- **One step** keeps the invariant. -/
theorem inv_step (e : Event H) (hi : r.Inv id) : (r.step id e).Inv id := by
  cases e with
  | create session localRole =>
    rw [step]
    split
    · exact hi
    · next hnew =>
      rw [createMOQSession]
      split
      · exact hi
      · refine ⟨hi.resting, hi.incoming, fun i session' hlookup => ?_, fun h hh => ?_⟩
        · rw [List.map_append, List.mem_append]
          by_cases heq : i = id session
          · subst heq
            rw [AList.lookup_insert, Option.some.injEq] at hlookup
            subst hlookup
            exact ⟨rfl, Or.inr (by simp), fun hc => hnew (hi.closed hc)⟩
          · rw [AList.lookup_insert_ne heq] at hlookup
            obtain ⟨hid, hmem, hopen⟩ := hi.sessions i session' hlookup
            exact ⟨hid, Or.inl hmem, hopen⟩
        · rw [List.map_append]
          exact List.mem_append_left _ (hi.closed hh)
  | announce session msg =>
    rw [step]
    split
    · rw [handle_announce hi.resting]
      exact ⟨{ hi.resting with }, hi.incoming, hi.sessions, hi.closed⟩
    · exact hi
  | subscribe session msg pick draw =>
    rw [step]
    split
    · obtain ⟨-, hr, hin⟩ := relay_subscribe hi.resting hi.incoming session msg pick draw
      exact ⟨hr, hin, hi.sessions, hi.closed⟩
    · exact hi
  | close session =>
    rw [step]
    split
    · next hmem =>
      obtain ⟨-, hr, hin⟩ := relay_close hi.resting hi.incoming session r.created
      refine ⟨hr, hin, fun i session' hlookup => ?_, ?_⟩
      · by_cases heq : i = id session
        · subst heq
          simp [close] at hlookup
        · simp only [close] at hlookup
          rw [AList.lookup_erase_ne heq] at hlookup
          obtain ⟨hid, hmem', hopen⟩ := hi.sessions i session' hlookup
          refine ⟨hid, hmem', ?_⟩
          rw [close, List.mem_append, List.mem_singleton]
          rintro (hc | rfl)
          · exact hopen hc
          · exact heq hid
      · exact List.append_subset.mpr ⟨hi.closed, fun h hh => List.mem_singleton.mp hh ▸ hmem⟩
    · exact hi

theorem backed_step_iff (e : Event H) (hi : r.Inv id) (hb : r.Backed id) :
    (r.step id e).Backed id ↔ KeepsRegistry id r e := by
  cases e with
  | create session localRole =>
    rw [step, KeepsRegistry]
    split
    · next hold => exact iff_of_true hb fun hnew => absurd hold hnew
    · next hnew =>
      rw [createMOQSession]
      rcases hhandler : createNewHandler localRole with _ | handler
      · simpa using hb
      · constructor
        · intro hb' _ _ ns publisher hlookup heq
          have hreg := hb' ns publisher hlookup
          rw [Registered, heq, AList.lookup_insert, Option.some.injEq] at hreg
          -- a publisher that is in the table is not a new session
          have hmem := (hi.sessions _ _ (hb ns publisher hlookup)).2.1
          exact hnew (hreg ▸ hmem)
        · intro hk ns publisher hlookup
          rw [Registered, AList.lookup_insert_ne (hk hnew rfl ns publisher hlookup)]
          exact hb ns publisher hlookup
  | announce session msg =>
    rw [step, KeepsRegistry]
    split
    · next hmem =>
      rw [handle_announce hi.resting]
      constructor
      · intro hb' _
        exact hb' msg.trackNameSpace session (AList.lookup_insert _)
      · intro hk ns publisher hlookup
        by_cases heq : ns = msg.trackNameSpace
        · subst heq
          rw [State.handleAnnounce, AList.lookup_insert, Option.some.injEq] at hlookup
          exact hlookup ▸ hk hmem
        · rw [State.handleAnnounce, AList.lookup_insert_ne heq] at hlookup
          exact hb ns publisher hlookup
    · next hmem => exact iff_of_true hb fun h => absurd h hmem
  | subscribe session msg pick draw =>
    refine iff_of_true ?_ trivial
    rw [step]
    split
    · obtain ⟨hns, -, -⟩ := relay_subscribe hi.resting hi.incoming session msg pick draw
      intro ns publisher hlookup
      exact hb ns publisher (hns ▸ hlookup)
    · exact hb
  | close session =>
    rw [step, KeepsRegistry]
    split
    · next hmem =>
      obtain ⟨hns, -, -⟩ := relay_close hi.resting hi.incoming session r.created
      have hlookups : ∀ ns, (r.close id session).relay.namespaces.lookup ns =
          r.relay.namespaces.lookup ns := fun ns => by rw [close, hns]
      constructor
      · intro hb' _ ns publisher hlookup heq
        have hreg := hb' ns publisher ((hlookups ns).trans hlookup)
        rw [Registered, heq, close, AList.lookup_erase] at hreg
        contradiction
      · intro hk ns publisher hlookup
        rw [hlookups] at hlookup
        rw [Registered, close, AList.lookup_erase_ne (hk hmem ns publisher hlookup)]
        exact hb ns publisher hlookup
    · next hmem => exact iff_of_true hb fun h => absurd h hmem

/-- **Registry**: the publishers stay open sessions, and every `SUBSCRIBE` reaches only open
sessions, in exactly the runs whose steps meet the condition. -/
theorem registry_consistent_iff (id : H → Bytes) (events : List (Event H)) :
    (∀ r ∈ Machine.states (step id) {} events, Consistent id r) ↔
      Machine.EachStep (step id) (KeepsRegistry id) {} events := by
  refine Machine.forall_states_iff (I := Inv id) (fun r e hi _ => inv_step e hi)
    (fun r e hi hc => ?_) events {} (inv_init id) ?_
  · rw [consistent_iff_backed (inv_step e hi)]
    exact backed_step_iff e hi hc.1
  · rw [consistent_iff_backed (inv_init id)]
    exact nofun

/-- Session 0 announces a namespace and is closed. -/
def publisherCloses : List (Event Nat) :=
  [.create 0 ROLE_RELAY, .create 1 ROLE_RELAY, .announce 0 { trackNameSpace := [97] }, .close 0]

/-- **Counterexample**: the `SUBSCRIBE` of session 1 is written to the closed session 0. -/
theorem publisherCloses_inconsistent :
    (Machine.run (step fun n => [n.toUInt8]) {} publisherCloses).closed = [0] ∧
      (Machine.run (step fun n => [n.toUInt8]) {} publisherCloses).relay.namespaces.lookup [97] =
        some 0 ∧
      ((Machine.run (step fun n => [n.toUInt8]) {} publisherCloses).step (fun n => [n.toUInt8])
        (.subscribe 1 { trackNameSpace := [97] } 0 7)).relay.unanswered = [(0, 7)] ∧
      ¬ (Machine.run (step fun n => [n.toUInt8]) {} publisherCloses).Consistent fun n => [n.toUInt8] := by
  refine ⟨by decide, by decide, by decide, fun hc => ?_⟩
  have hreg := hc.1 [97] 0 (by decide)
  revert hreg
  unfold Registered
  decide

end Registry

end MoqQuic.Moqt
