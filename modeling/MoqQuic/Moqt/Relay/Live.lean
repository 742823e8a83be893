import MoqQuic.Moqt.Relay.Messages

/-!
# MoqQuic.Moqt.Relay.Live

The live subscriptions of a session.

A subscription is live from its `SUBSCRIBE` to its `UNSUBSCRIBE`.  `Ledger` runs
the relay next to the list of live subscriptions, which says what the relay is
for: the streams of a track go to the sessions with a live subscription to it,
under the id of one.

The relay keeps a session once per relay stream, and its ids in a second map that
is never pruned.  So an `UNSUBSCRIBE` silences the other ids of the session for the
track, and after it a stream may carry the id that is gone.  `serves_live` says
that this, two relay streams for a track and two tracks for a stream id are all
that can go wrong.
-/

namespace MoqQuic.Moqt

open Wire

variable {H : Type}

/-- The relay and the live subscriptions. -/
structure Ledger (H : Type) where
  relay : State H := {}
  live : List (H × Subscribe) := []

namespace Ledger

section Definitions

variable [DecidableEq H]

/-- The live subscriptions after an `UNSUBSCRIBE`. -/
def unsubscribed (l : Ledger H) (h : H) (subid : Nat) : List (H × Subscribe) :=
  l.live.filter fun x => ¬ (x.1 = h ∧ x.2.subscribeID = subid)

def step (l : Ledger H) (msg : Message H) : Ledger H :=
  { relay := l.relay.handle msg
    live :=
      match msg with
      | .subscribe h m _ _ =>
        if (l.relay.namespaces.lookup m.trackNameSpace).isSome then l.live ++ [(h, m)] else l.live
      | .unsubscribe h m => l.unsubscribed h m.subscriptionID
      | .announce _ _ | .dataStream _ _ _ => l.live }

/-- What is forwarded of a data stream. -/
def deliveries (l : Ledger H) (publisher : H) (subid : Nat) (pick : H → Nat) :
    List (H × Nat × DataStream H) :=
  (l.relay.handle (.dataStream publisher subid pick)).forwarded.drop l.relay.forwarded.length

/-- A data stream of an upstream subscription would be forwarded to the sessions with a
live subscription to its track and to no others, under the id of one. -/
def Serves (l : Ledger H) : Prop :=
  ∀ publisher subid ref (rs : RelayStream H) pick,
    (l.relay.incomingStreams publisher).lookup subid = some ref →
      l.relay.relayStreams[ref]? = some rs →
        (∀ x ∈ l.deliveries publisher subid pick,
          ∃ m, (x.1, m) ∈ l.live ∧ m.subscribeID = x.2.1 ∧ SameTrack m rs.request) ∧
        ∀ h, (∃ x ∈ l.deliveries publisher subid pick, x.1 = h) ↔
          ∃ m, (h, m) ∈ l.live ∧ SameTrack m rs.request

/-- A session uses each subscribe id once. -/
def DistinctIds (l : Ledger H) : Message H → Prop
  | .subscribe h m _ _ => ∀ x ∈ l.relay.subscribes, x.1 = h → x.2.subscribeID ≠ m.subscribeID
  | _ => True

/-- An accepted `SUBSCRIBE` has the stream id of no other track and of none that the
session has unsubscribed, and finds the relay stream of its stream id unless there is
none; a session unsubscribes only the last live id of a track. -/
def KeepsLive (l : Ledger H) : Message H → Prop
  | .subscribe h m pick draw => ∀ publisher,
      l.relay.namespaces.lookup m.trackNameSpace = some publisher →
        (∀ x ∈ l.relay.subscribes, x.2.getStreamID = m.getStreamID →
          SameTrack x.2 m ∧ (x.1 = h → x ∈ l.live)) ∧
        (fetchesAnew m = false ∧ ((l.relay.incomingStreams publisher).streamIDGetStream
            l.relay.getStreamID m.getStreamID pick).isSome ∨
          (l.relay.incomingStreams publisher).lookup draw.toNat = none ∧
            ∀ rs ∈ l.relay.relayStreams, rs.streamID ≠ m.getStreamID)
  | .unsubscribe h m => ∀ x ∈ l.live, x.1 = h → x.2.subscribeID = m.subscriptionID →
      ∀ y ∈ l.live, y.1 = h → y.2.getStreamID = x.2.getStreamID → y = x
  | _ => True

end Definitions

/-! ## the two maps and the live subscriptions -/

/-- The relay keeps the live subscriptions: as subscribers in the relay streams, and in
`SubscribedStreams` together with the others. -/
structure Tracks (l : Ledger H) : Prop where
  resting : l.relay.Resting
  store : l.relay.Store
  unique : ∀ (ref ref' : Nat) (rs rs' : RelayStream H), l.relay.relayStreams[ref]? = some rs →
    l.relay.relayStreams[ref']? = some rs' → rs.streamID = rs'.streamID → ref = ref'
  tracks : ∀ x ∈ l.relay.subscribes, ∀ y ∈ l.relay.subscribes,
    x.2.getStreamID = y.2.getStreamID → SameTrack x.2 y.2
  request : ∀ (ref : Nat) (rs : RelayStream H), l.relay.relayStreams[ref]? = some rs →
    ∃ x ∈ l.relay.subscribes, SameTrack x.2 rs.request
  ids : ∀ x ∈ l.relay.subscribes, ∀ y ∈ l.relay.subscribes, x.1 = y.1 →
    x.2.subscribeID = y.2.subscribeID → x = y
  recorded : ∀ x ∈ l.relay.subscribes, ∃ (ref : Nat) (rs : RelayStream H),
    (l.relay.subscribedStreams x.1).lookup x.2.subscribeID = some ref ∧
      l.relay.relayStreams[ref]? = some rs ∧ rs.streamID = x.2.getStreamID
  known : ∀ h subid ref, (l.relay.subscribedStreams h).lookup subid = some ref →
    ∃ m, (h, m) ∈ l.relay.subscribes ∧ m.subscribeID = subid
  accepted : l.live ⊆ l.relay.subscribes
  whole : ∀ h m m', (h, m) ∈ l.live → (h, m') ∈ l.relay.subscribes →
    m'.getStreamID = m.getStreamID → (h, m') ∈ l.live
  subscribers : ∀ (ref : Nat) (rs : RelayStream H), l.relay.relayStreams[ref]? = some rs →
    ∀ h, h ∈ rs.subscribers ↔ ∃ m, (h, m) ∈ l.live ∧ m.getStreamID = rs.streamID

theorem tracks_init : ({} : Ledger H).Tracks :=
  ⟨resting_init, store_init, nofun, nofun, nofun, nofun, nofun, nofun, List.nil_subset _, nofun, nofun⟩

variable {l : Ledger H} {subid ref : Nat} {msg : Subscribe} {publisher : H} {h : H}

/-- An id that is recorded for a stream id belongs to a message with that stream id. -/
theorem Tracks.message (ht : l.Tracks)
    (hlookup : (l.relay.subscribedStreams h).lookup subid = some ref) :
    ∃ m, (h, m) ∈ l.relay.subscribes ∧ m.subscribeID = subid ∧
      m.getStreamID = l.relay.getStreamID ref := by
  obtain ⟨m, hm, rfl⟩ := ht.known h subid ref hlookup
  obtain ⟨ref', rs, hlookup', hrs, hid⟩ := ht.recorded (h, m) hm
  rw [hlookup, Option.some.injEq] at hlookup'
  subst hlookup'
  exact ⟨m, hm, rfl, by rw [getStreamID_eq hrs, hid]⟩

/-- Messages with one stream id are for the track of its relay stream. -/
theorem Tracks.sameTrack (ht : l.Tracks) {x : H × Subscribe} {ref : Nat} {rs : RelayStream H}
    (hx : x ∈ l.relay.subscribes) (hrs : l.relay.relayStreams[ref]? = some rs)
    (hid : x.2.getStreamID = rs.streamID) : SameTrack x.2 rs.request := by
  obtain ⟨y, hy, htrack⟩ := ht.request ref rs hrs
  refine (ht.tracks x hx y hy ?_).trans htrack
  rw [hid, htrack.getStreamID_eq, ht.store.streamID ref rs hrs]

variable [DecidableEq H]

theorem deliveries_eq (ht : l.Tracks) {rs : RelayStream H}
    (hlookup : (l.relay.incomingStreams publisher).lookup subid = some ref)
    (hrs : l.relay.relayStreams[ref]? = some rs) (pick : H → Nat) :
    l.deliveries publisher subid pick =
      rs.subscribers.filterMap (l.relay.delivery ⟨publisher, subid, rs.streamID, ref⟩ pick) := by
  rw [deliveries, handle_dataStream ht.resting hlookup hrs, List.drop_left]

/-- **Service**: the subscribers of a relay stream get its streams under a live id. -/
theorem Tracks.serves (ht : l.Tracks) : l.Serves := by
  intro publisher subid ref rs pick hlookup hrs
  rw [deliveries_eq ht hlookup hrs]
  constructor
  · intro x hx
    rw [List.mem_filterMap] at hx
    obtain ⟨h, hh, hdelivery⟩ := hx
    rw [State.delivery, Option.map_eq_some_iff] at hdelivery
    obtain ⟨id, hgot, rfl⟩ := hdelivery
    obtain ⟨ref', hlookup', hid'⟩ := StreamsMap.getSubID_eq_some hgot
    obtain ⟨m, hm, hmid, hstream⟩ := ht.message hlookup'
    have hsid : m.getStreamID = rs.streamID := hstream.trans hid'
    obtain ⟨m', hlive, hsid'⟩ := (ht.subscribers ref rs hrs h).mp hh
    exact ⟨m, ht.whole h m' m hlive hm (hsid.trans hsid'.symm), hmid, ht.sameTrack hm hrs hsid⟩
  · intro h
    constructor
    · rintro ⟨x, hx, rfl⟩
      rw [List.mem_filterMap] at hx
      obtain ⟨h, hh, hdelivery⟩ := hx
      rw [State.delivery, Option.map_eq_some_iff] at hdelivery
      obtain ⟨id, -, rfl⟩ := hdelivery
      obtain ⟨m, hlive, hsid⟩ := (ht.subscribers ref rs hrs h).mp hh
      exact ⟨m, hlive, ht.sameTrack (ht.accepted hlive) hrs hsid⟩
    · rintro ⟨m, hlive, htrack⟩
      have hsid : m.getStreamID = rs.streamID := by
        rw [htrack.getStreamID_eq, ht.store.streamID ref rs hrs]
      have hsub := (ht.subscribers ref rs hrs h).mpr ⟨m, hlive, hsid⟩
      -- the id of the live subscription is there to be found
      obtain ⟨ref', rs', hlookup', hrs', hid'⟩ := ht.recorded (h, m) (ht.accepted hlive)
      rcases hgot : (l.relay.subscribedStreams h).getSubID l.relay.getStreamID rs.streamID (pick h)
        with _ | id
      · refine absurd ?_ (StreamsMap.getSubID_eq_none hgot hlookup')
        rw [getStreamID_eq hrs', hid', hsid]
      · refine ⟨(h, id, ⟨publisher, subid, rs.streamID, ref⟩), ?_, rfl⟩
        rw [List.mem_filterMap]
        exact ⟨h, hsub, by rw [State.delivery, hgot]; rfl⟩

/-! ## messages -/

omit [DecidableEq H] in
theorem Tracks.same (ht : l.Tracks) {s : State H} (hr : s.Resting)
    (hsubscribes : s.subscribes = l.relay.subscribes)
    (hstreams : s.relayStreams = l.relay.relayStreams)
    (hincoming : s.incomingStreams = l.relay.incomingStreams)
    (hsubscribed : s.subscribedStreams = l.relay.subscribedStreams) :
    Tracks { relay := s, live := l.live } := by
  obtain ⟨-, hstore, hunique, htracks, hrequest, hids, hrecorded, hknown, haccepted, hwhole, hsubs⟩ :=
    ht
  constructor
  all_goals simp only [hsubscribes, hstreams, hsubscribed]
  case resting => exact hr
  case store => exact hstore.congr hincoming (by rw [hstreams]; rfl)
  all_goals assumption

theorem mem_unsubscribed {subid : Nat} {x : H × Subscribe} :
    x ∈ l.unsubscribed h subid ↔ x ∈ l.live ∧ ¬ (x.1 = h ∧ x.2.subscribeID = subid) := by
  rw [unsubscribed, List.mem_filter, decide_eq_true_eq]

theorem tracks_unsubscribed (ht : l.Tracks)
    (hlookup : (l.relay.subscribedStreams h).lookup subid = some ref)
    (hlast : ∀ x ∈ l.live, x.1 = h → x.2.subscribeID = subid →
      ∀ y ∈ l.live, y.1 = h → y.2.getStreamID = x.2.getStreamID → y = x) :
    Tracks { relay := l.relay.removeSubscriber ref h, live := l.unsubscribed h subid } := by
  obtain ⟨m₀, hm₀, hid₀, hstream₀⟩ := ht.message hlookup
  -- a live message of the session on the relay stream is the one that goes
  have hgone : ∀ m, (h, m) ∈ l.live → m.getStreamID = m₀.getStreamID → m.subscribeID = subid := by
    intro m hm heq
    have hlive₀ := ht.whole h m m₀ hm hm₀ heq.symm
    have hmm := hlast (h, m₀) hlive₀ rfl hid₀ (h, m) hm rfl heq
    rw [Prod.mk.injEq] at hmm
    rw [hmm.2, hid₀]
  have hsame := sameStreams_removeSubscriber l.relay ref h
  constructor
  case resting => exact { ht.resting with }
  case store => exact ht.store.congr rfl hsame
  case unique =>
    intro ref₁ ref₂ rs₁ rs₂ hrs₁ hrs₂ heq
    obtain ⟨rs₁', hrs₁', -, hid₁, -⟩ := hsame.fields hrs₁
    obtain ⟨rs₂', hrs₂', -, hid₂, -⟩ := hsame.fields hrs₂
    exact ht.unique ref₁ ref₂ rs₁' rs₂' hrs₁' hrs₂' (by rw [hid₁, heq, hid₂])
  case tracks => exact ht.tracks
  case request =>
    intro ref' rs' hrs'
    obtain ⟨rs, hrs, -, -, -, hreq⟩ := hsame.fields hrs'
    rw [← hreq]
    exact ht.request ref' rs hrs
  case ids => exact ht.ids
  case recorded =>
    intro x hx
    obtain ⟨ref', rs, hl, hrs, hid⟩ := ht.recorded x hx
    obtain ⟨rs', hrs', -, hid', -⟩ := hsame.symm.fields hrs
    exact ⟨ref', rs', hl, hrs', hid'.trans hid⟩
  case known => exact ht.known
  case accepted =>
    intro x hx
    exact ht.accepted (mem_unsubscribed.mp hx).1
  case whole =>
    intro h' m m' hm hm' heq
    obtain ⟨hlive, hkept⟩ := mem_unsubscribed.mp hm
    refine mem_unsubscribed.mpr ⟨ht.whole h' m m' hlive hm' heq, ?_⟩
    rintro ⟨rfl, hid⟩
    have hmm := ht.ids _ hm' _ hm₀ rfl (hid.trans hid₀.symm)
    rw [Prod.mk.injEq] at hmm
    exact hkept ⟨rfl, hgone m hlive (by rw [← heq, hmm.2])⟩
  case subscribers =>
    intro ref' rs' hrs' h'
    obtain ⟨rs, hrs, -, hid, -⟩ := hsame.fields hrs'
    have hsub := ht.subscribers ref' rs hrs h'
    rw [← hid]
    rw [getElem?_removeSubscriber hrs, Option.some.injEq] at hrs'
    subst hrs'
    split
    · next href =>
      subst href
      rw [getStreamID_eq hrs] at hstream₀
      simp only [RelayStream.removeSubscriber, List.mem_filter, decide_eq_true_eq, hsub]
      constructor
      · rintro ⟨⟨m, hm, hsid⟩, hne⟩
        exact ⟨m, mem_unsubscribed.mpr ⟨hm, fun hh => hne hh.1⟩, hsid⟩
      · rintro ⟨m, hm, hsid⟩
        obtain ⟨hlive, hkept⟩ := mem_unsubscribed.mp hm
        refine ⟨⟨m, hlive, hsid⟩, ?_⟩
        rintro rfl
        exact hkept ⟨rfl, hgone m hlive (hsid.trans hstream₀.symm)⟩
    · next href =>
      rw [hsub]
      constructor
      · rintro ⟨m, hm, hsid⟩
        refine ⟨m, mem_unsubscribed.mpr ⟨hm, ?_⟩, hsid⟩
        rintro ⟨rfl, hmid⟩
        -- the message that goes is on another relay stream
        have hmm := ht.ids _ (ht.accepted hm) _ hm₀ rfl (hmid.trans hid₀.symm)
        rw [Prod.mk.injEq] at hmm
        obtain ⟨ref₀, rs₀, hl₀, hrs₀, hsid₀⟩ := ht.recorded (h', m₀) hm₀
        rw [hid₀, hlookup, Option.some.injEq] at hl₀
        subst hl₀
        exact href (ht.unique ref ref' rs₀ rs hrs₀ hrs (by rw [hsid₀, ← hsid, hmm.2]))
      · rintro ⟨m, hm, hsid⟩
        exact ⟨m, (mem_unsubscribed.mp hm).1, hsid⟩

section

variable (ht : l.Tracks) {s' : State H}
  (hids : ∀ x ∈ l.relay.subscribes, x.1 = h → x.2.subscribeID ≠ msg.subscribeID)
  (htracks : ∀ x ∈ l.relay.subscribes, x.2.getStreamID = msg.getStreamID →
    SameTrack x.2 msg ∧ (x.1 = h → x ∈ l.live))

include ht hids htracks

/-- An accepted `SUBSCRIBE`, given the relay streams it finds or makes. -/
theorem tracks_joined {base : State H} {ref : Nat} {rs₀ : RelayStream H}
    (hj : l.relay.Joined base h msg ref s') (hbase : base.Store)
    (hunique : ∀ (ref ref' : Nat) (rs rs' : RelayStream H), base.relayStreams[ref]? = some rs →
      base.relayStreams[ref']? = some rs' → rs.streamID = rs'.streamID → ref = ref')
    (hat : base.relayStreams[ref]? = some rs₀) (hid : rs₀.streamID = msg.getStreamID)
    (hrequest : ∀ (ref : Nat) (rs : RelayStream H), base.relayStreams[ref]? = some rs →
      ∃ x ∈ l.relay.subscribes ++ [(h, msg)], SameTrack x.2 rs.request)
    (hsubs : ∀ (ref : Nat) (rs : RelayStream H), base.relayStreams[ref]? = some rs →
      ∀ h, h ∈ rs.subscribers ↔ ∃ m, (h, m) ∈ l.live ∧ m.getStreamID = rs.streamID)
    (hmono : ∀ (ref : Nat) (rs : RelayStream H), l.relay.relayStreams[ref]? = some rs →
      base.relayStreams[ref]? = some rs) :
    Tracks { relay := s', live := l.live ++ [(h, msg)] } := by
  -- a relay stream of the new state is one of `base`, with one more subscriber at `ref`
  have hstreams : s'.relayStreams = (base.addSubscriber ref h).relayStreams := hj.relayStreams
  have hsame : SameStreams base.relayStreams s'.relayStreams := by
    rw [hstreams]
    exact sameStreams_addSubscriber base ref h
  constructor
  case resting => exact hj.resting
  case store => exact hbase.congr hj.incomingStreams hsame
  case unique =>
    intro ref₁ ref₂ rs₁ rs₂ hrs₁ hrs₂ heq
    obtain ⟨rs₁', hrs₁', -, hid₁, -⟩ := hsame.fields hrs₁
    obtain ⟨rs₂', hrs₂', -, hid₂, -⟩ := hsame.fields hrs₂
    exact hunique ref₁ ref₂ rs₁' rs₂' hrs₁' hrs₂' (by rw [hid₁, heq, hid₂])
  case tracks =>
    simp only [hj.subscribes, List.forall_mem_append, List.forall_mem_singleton]
    exact ⟨fun x hx => ⟨ht.tracks x hx, fun heq => (htracks x hx heq).1⟩,
      fun y hy heq => (htracks y hy heq.symm).1.symm, fun _ => ⟨rfl, rfl⟩⟩
  case request =>
    intro ref' rs' hrs'
    obtain ⟨rs, hrs, -, -, -, hreq⟩ := hsame.fields hrs'
    rw [hj.subscribes, ← hreq]
    exact hrequest ref' rs hrs
  case ids =>
    simp only [hj.subscribes, List.forall_mem_append, List.forall_mem_singleton]
    exact ⟨fun x hx => ⟨ht.ids x hx, fun hh heq => absurd heq (hids x hx hh)⟩,
      fun y hy hh heq => absurd heq.symm (hids y hy hh.symm), by simp⟩
  case recorded =>
    simp only [hj.subscribes, hj.subscribed, List.forall_mem_append, List.forall_mem_singleton]
    constructor
    · intro x hx
      obtain ⟨ref', rs, hlookup, hrs, hsid⟩ := ht.recorded x hx
      obtain ⟨rs', hrs', -, hsid', -⟩ := hsame.symm.fields (hmono ref' rs hrs)
      refine ⟨ref', rs', ?_, hrs', hsid'.trans hsid⟩
      rw [if_neg fun heq => hids x hx heq.1 heq.2]
      exact hlookup
    · obtain ⟨rs', hrs', -, hsid', -⟩ := hsame.symm.fields hat
      exact ⟨ref, rs', by simp, hrs', hsid'.trans hid⟩
  case known =>
    intro h' subid ref' hlookup
    rw [hj.subscribed] at hlookup
    rw [hj.subscribes]
    split at hlookup
    · next heq =>
      obtain ⟨rfl, rfl⟩ := heq
      exact ⟨msg, List.mem_append_right _ (List.mem_singleton.mpr rfl), rfl⟩
    · obtain ⟨m, hm, hmid⟩ := ht.known h' subid ref' hlookup
      exact ⟨m, List.mem_append_left _ hm, hmid⟩
  case accepted =>
    rw [hj.subscribes]
    exact List.append_subset.mpr ⟨List.Subset.trans ht.accepted (List.subset_append_left _ _),
      List.subset_append_right _ _⟩
  case whole =>
    intro h' m m' hm hm' heq
    rw [hj.subscribes, List.mem_append, List.mem_singleton] at hm'
    obtain hm' | hm' := hm'
    · refine List.mem_append_left _ ?_
      obtain hm | hm := List.mem_append.mp hm
      · exact ht.whole h' m m' hm hm' heq
      · rw [List.mem_singleton, Prod.mk.injEq] at hm
        obtain ⟨rfl, rfl⟩ := hm
        exact (htracks (h', m') hm' heq).2 rfl
    · rw [hm']
      exact List.mem_append_right _ (List.mem_singleton.mpr rfl)
  case subscribers =>
    intro ref' rs' hrs' h'
    obtain ⟨rs, hrs, -, hid', -⟩ := hsame.fields hrs'
    have hsub := hsubs ref' rs hrs h'
    have hlive : (∃ m, (h', m) ∈ l.live ++ [(h, msg)] ∧ m.getStreamID = rs.streamID) ↔
        h' ∈ rs.subscribers ∨ h' = h ∧ msg.getStreamID = rs.streamID := by
      rw [hsub]
      simp only [List.mem_append, List.mem_singleton, Prod.mk.injEq]
      grind
    rw [← hid', hlive]
    rw [hstreams, getElem?_addSubscriber hrs, Option.some.injEq] at hrs'
    subst hrs'
    split
    · next href =>
      subst href
      rw [hat, Option.some.injEq] at hrs
      subst hrs
      simp only [RelayStream.addSubscriber, List.mem_insert_iff, hid, and_true]
      exact Or.comm
    · next href =>
      have hne : msg.getStreamID ≠ rs.streamID := by
        rw [← hid]
        exact fun heq => href (hunique ref ref' rs₀ rs hat hrs heq)
      simp [hne]

theorem tracks_cached {pick ref : Nat}
    (hfind : (l.relay.incomingStreams publisher).streamIDGetStream l.relay.getStreamID
      msg.getStreamID pick = some ref)
    (hj : l.relay.Joined l.relay h msg ref s') :
    Tracks { relay := s', live := l.live ++ [(h, msg)] } := by
  obtain ⟨⟨subid, hlookup⟩, hid⟩ := StreamsMap.streamIDGetStream_eq_some hfind
  obtain ⟨rs₀, hrs₀, -, -⟩ := ht.store.incoming publisher subid ref hlookup
  rw [getStreamID_eq hrs₀] at hid
  refine tracks_joined ht hids htracks hj ht.store ht.unique hrs₀ hid ?_ ht.subscribers fun _ _ => id
  intro ref' rs hrs
  obtain ⟨x, hx, htrack⟩ := ht.request ref' rs hrs
  exact ⟨x, List.mem_append_left _ hx, htrack⟩

theorem tracks_opened {draw : UInt32}
    (hj : l.relay.Joined (l.relay.sendSubscribe h msg publisher draw) h msg
      l.relay.relayStreams.length s')
    (hfresh : (l.relay.incomingStreams publisher).lookup draw.toNat = none)
    (hnew : ∀ rs ∈ l.relay.relayStreams, rs.streamID ≠ msg.getStreamID) :
    Tracks { relay := s', live := l.live ++ [(h, msg)] } := by
  refine tracks_joined ht hids htracks hj (store_sendSubscribe ht.store hfresh) ?_
    (getElem?_sendSubscribe_new l.relay h msg publisher draw) rfl ?_ ?_
    fun _ _ => getElem?_sendSubscribe_old
  · intro ref ref' rs rs' hrs hrs' heq
    obtain hrs | ⟨rfl, rfl⟩ := getElem?_sendSubscribe hrs
    · obtain hrs' | ⟨rfl, rfl⟩ := getElem?_sendSubscribe hrs'
      · exact ht.unique ref ref' rs rs' hrs hrs' heq
      · exact absurd heq (hnew rs (List.mem_of_getElem? hrs))
    · obtain hrs' | ⟨rfl, -⟩ := getElem?_sendSubscribe hrs'
      · exact absurd heq.symm (hnew rs' (List.mem_of_getElem? hrs'))
      · rfl
  · intro ref rs hrs
    obtain hrs | ⟨-, rfl⟩ := getElem?_sendSubscribe hrs
    · obtain ⟨x, hx, htrack⟩ := ht.request ref rs hrs
      exact ⟨x, List.mem_append_left _ hx, htrack⟩
    · exact ⟨(h, msg), List.mem_append_right _ (List.mem_singleton.mpr rfl), rfl, rfl⟩
  · intro ref rs hrs h'
    obtain hrs | ⟨-, rfl⟩ := getElem?_sendSubscribe hrs
    · exact ht.subscribers ref rs hrs h'
    · -- no live subscription has the stream id of a new relay stream
      constructor
      · intro hin
        exact absurd hin List.not_mem_nil
      · rintro ⟨m, hm, hsid⟩
        obtain ⟨ref', rs', -, hrs', hid'⟩ := ht.recorded (h', m) (ht.accepted hm)
        exact absurd (hid'.trans hsid) (hnew rs' (List.mem_of_getElem? hrs'))

end

/-- An `UNSUBSCRIBE` for an unknown id. -/
theorem Tracks.unsubscribed_eq (ht : l.Tracks) {subid : Nat}
    (hlookup : (l.relay.subscribedStreams h).lookup subid = none) :
    l.unsubscribed h subid = l.live := by
  rw [unsubscribed, List.filter_eq_self]
  intro x hx
  rw [decide_eq_true_eq]
  rintro ⟨rfl, rfl⟩
  obtain ⟨ref, rs, hl, -, -⟩ := ht.recorded x (ht.accepted hx)
  rw [hlookup] at hl
  contradiction

theorem tracks_step (msg : Message H) (ht : l.Tracks) (hids : DistinctIds l msg)
    (hkeeps : KeepsLive l msg) : (l.step msg).Tracks := by
  have hr := ht.resting
  cases msg with
  | announce publisher msg =>
    simp only [step, handle_announce hr]
    exact ht.same { hr with } rfl rfl rfl rfl
  | subscribe h msg pick draw =>
    obtain ⟨hnone, hsame⟩ | ⟨publisher, hpub, hjoined⟩ := handle_subscribe hr h msg pick draw
    · simp only [step, hsame, hnone]
      exact ht
    · simp only [step, hpub, Option.isSome_some, if_true]
      obtain ⟨htracks, hchoice⟩ := hkeeps publisher hpub
      obtain ⟨ref, hfind, -, hj⟩ | ⟨hmiss, hj⟩ := hjoined
      · exact tracks_cached ht hids htracks hfind hj
      · obtain ⟨hanew, hsome⟩ | ⟨hfresh, hnew⟩ := hchoice
        · obtain hmiss | hmiss := hmiss
          · simp [hmiss] at hsome
          · simp [hmiss] at hanew
        · exact tracks_opened ht hids htracks hj hfresh hnew
  | unsubscribe h msg =>
    simp only [step, handle_unsubscribe hr, State.handleUnsubscribe, StreamsMap.subIDGetStream]
    rcases hlookup : (l.relay.subscribedStreams h).lookup msg.subscriptionID with _ | ref
    · simp only [ht.unsubscribed_eq hlookup]
      exact ht
    · exact tracks_unsubscribed ht hlookup hkeeps
  | dataStream publisher subid pick =>
    rcases hlookup : (l.relay.incomingStreams publisher).lookup subid with _ | ref
    · simp only [step, handle_dataStream_none hr hlookup]
      exact ht
    · obtain ⟨rs, hrs, -, -⟩ := ht.store.incoming publisher subid ref hlookup
      simp only [step, handle_dataStream hr hlookup hrs]
      exact ht.same { hr with } rfl rfl rfl rfl

/-- **Live subscriptions**: in every run with distinct ids whose messages meet the
condition, the streams of a track go to the sessions with a live subscription to it and
to no others, under a live id. -/
theorem serves_live (msgs : List (Message H)) (hids : Machine.EachStep step DistinctIds {} msgs)
    (hkeeps : Machine.EachStep step KeepsLive {} msgs) :
    ∀ l ∈ Machine.states step {} msgs, Serves l := by
  intro l hl
  have hstep : ∀ l, ∀ msg ∈ msgs, Tracks l → DistinctIds l msg ∧ KeepsLive l msg →
      (step l msg).Tracks := fun l msg _ ht hk => tracks_step msg ht hk.1 hk.2
  exact (Machine.states_of_eachStep msgs _ hstep (hids.and hkeeps) tracks_init l hl).serves

/-- A `SUBSCRIBE` for the track `c` of the namespace `a_b`. -/
def subscribeC (subid : Nat) : Subscribe := { trackC with subscribeID := subid }

/-- Session 0 publishes, sessions 1 and 2 subscribe, and session 1 unsubscribes. -/
def oneLeaves : List (Message Nat) :=
  [.announce 0 { trackNameSpace := [97, 95, 98] }, .subscribe 1 (subscribeC 4) 0 7,
    .subscribe 2 (subscribeC 5) 0 8, .unsubscribe 1 { subscriptionID := 4 }]

theorem oneLeaves_served :
    ((Machine.run step {} oneLeaves).deliveries 0 7 fun _ => 0).map (fun x => (x.1, x.2.1)) = [(2, 5)] ∧
      (Machine.run step {} oneLeaves).Serves := by
  refine ⟨by decide, serves_live oneLeaves ?_ ?_ _ (Machine.run_mem_states _ _)⟩
  · refine ⟨trivial, nofun, ?_, trivial, trivial⟩
    unfold DistinctIds
    decide
  · refine ⟨trivial, fun publisher hpub => ?_, fun publisher hpub => ?_, ?_, trivial⟩
    · exact ⟨nofun, Or.inr ⟨by cases hpub; rfl, nofun⟩⟩
    · cases hpub
      exact ⟨by decide, Or.inl (by decide)⟩
    · unfold KeepsLive
      decide

/-- Session 1 subscribes twice and unsubscribes the first id. -/
def twiceThenOnce : List (Message Nat) :=
  [.announce 0 { trackNameSpace := [97, 95, 98] }, .subscribe 1 (subscribeC 4) 0 7,
    .subscribe 1 (subscribeC 5) 0 8, .unsubscribe 1 { subscriptionID := 4 }]

/-- Session 1 subscribes, unsubscribes and subscribes again. -/
def backAgain : List (Message Nat) :=
  [.announce 0 { trackNameSpace := [97, 95, 98] }, .subscribe 1 (subscribeC 4) 0 7,
    .unsubscribe 1 { subscriptionID := 4 }, .subscribe 1 (subscribeC 5) 0 8]

/-- **Counterexample**: a live id that gets nothing, and a stream under an id that is
gone. -/
theorem silenced_and_stale :
    (Machine.EachStep step DistinctIds {} twiceThenOnce ∧
      (Machine.run step {} twiceThenOnce).live = [(1, subscribeC 5)] ∧
      (Machine.run step {} twiceThenOnce).deliveries 0 7 (fun _ => 0) = [] ∧
      ¬ (Machine.run step {} twiceThenOnce).Serves) ∧
    (Machine.EachStep step DistinctIds {} backAgain ∧
      (Machine.run step {} backAgain).live = [(1, subscribeC 5)] ∧
      ((Machine.run step {} backAgain).deliveries 0 7 fun _ => 1).map (fun x => (x.1, x.2.1)) =
        [(1, 4)] ∧
      ¬ (Machine.run step {} backAgain).Serves) := by
  refine ⟨⟨⟨trivial, nofun, ?_, trivial, trivial⟩, by decide, by decide, fun hserves => ?_⟩,
    ⟨⟨trivial, nofun, trivial, ?_, trivial⟩, by decide, by decide, fun hserves => ?_⟩⟩
  · unfold DistinctIds
    decide
  · have hsilent := (hserves 0 7 0 _ (fun _ => 0) rfl rfl).2 1
    obtain ⟨x, hx, -⟩ := hsilent.mpr ⟨subscribeC 5, by decide, rfl, rfl⟩
    exact absurd hx List.not_mem_nil
  · unfold DistinctIds
    decide
  · obtain ⟨m, hm, hid, -⟩ := (hserves 0 7 0 _ (fun _ => 1) rfl rfl).1 (1, 4, ⟨0, 7, _, 0⟩)
      List.mem_cons_self
    have hlive : (1, m) ∈ [(1, subscribeC 5)] := hm
    rw [List.mem_singleton, Prod.mk.injEq] at hlive
    rw [hlive.2] at hid
    contradiction

end Ledger

end MoqQuic.Moqt
