import MoqQuic.Moqt.Relay.Isolation

/-!
# MoqQuic.Moqt.Relay.Messages

The relay one message at a time.

Here a control message is handled to its end before the next one comes, and the
headers of a data stream are written to all subscribers at once: `ForwardStream`
holds the lock of the subscribers until then.  `State.handle` is a run of the
machine of `MoqQuic.Moqt.Relay`; the lemmas say what is left of it between two
messages.
-/

namespace MoqQuic.Moqt

open Wire

/-- A control message or a data stream.  `pick` and `draw` are the random choices of
the source: the order of a `range` over a map and the id that `SendSubscribe` draws. -/
inductive Message (H : Type) where
  | announce (publisher : H) (msg : Announce)
  | subscribe (subscriber : H) (msg : Subscribe) (pick : Nat) (draw : UInt32)
  | unsubscribe (subscriber : H) (msg : Unsubcribe)
  | dataStream (publisher : H) (subid : Nat) (pick : H → Nat)

variable {H : Type}

/-- The subscribers of the relay stream with this upstream id. -/
def State.audience (s : State H) (publisher : H) (subid : Nat) : List H :=
  match (s.incomingStreams publisher).subIDGetStream subid with
  | none => []
  | some relayStream =>
    match s.relayStreams[relayStream]? with
    | none => []
    | some rs => rs.subscribers

/-- The steps of the handlers of a message. -/
def State.actions (s : State H) : Message H → List (Action H)
  | .announce publisher msg => [.announce publisher msg]
  | .subscribe h msg pick draw =>
    [.subscribe h msg, .getObjectStream h pick, .sendSubscribe h draw, .addSubscriber h, .addStream h]
  | .unsubscribe h msg => [.unsubscribe h msg]
  | .dataStream publisher subid pick =>
    .dataStream publisher subid :: .forwardStream 0 ::
      (s.audience publisher subid).map fun h => .processMOQTStream 0 (pick h)

/-- No goroutine is in the middle of a message. -/
structure State.Resting (s : State H) : Prop where
  pc : ∀ h, s.pc h = .idle
  dataStreams : s.dataStreams = []
  processing : s.processing = []

theorem resting_init : ({} : State H).Resting := ⟨fun _ => rfl, rfl, rfl⟩

variable [DecidableEq H]

def State.handle (s : State H) (msg : Message H) : State H := Machine.run step s (s.actions msg)

/-! ## what a message leaves behind -/

/-- A `SUBSCRIBE` was accepted, on the relay stream `ref` of `base`. -/
structure State.Joined (s base : State H) (h : H) (msg : Subscribe) (ref : Nat) (s' : State H) :
    Prop where
  namespaces : s'.namespaces = s.namespaces
  subscribes : s'.subscribes = s.subscribes ++ [(h, msg)]
  relayStreams : s'.relayStreams = base.relayStreams.modify ref (·.addSubscriber h)
  incomingStreams : s'.incomingStreams = base.incomingStreams
  subscribed : ∀ h' subid, (s'.subscribedStreams h').lookup subid =
    if h' = h ∧ subid = msg.subscribeID then some ref else (s.subscribedStreams h').lookup subid
  unanswered : s'.unanswered = base.unanswered
  forwarded : s'.forwarded = s.forwarded
  resting : s'.Resting

/-- The part of `HandleSubscribe` after `GetObjectStream`. -/
theorem joined_fetched {s base : State H} {h : H} {msg : Subscribe} {ref : Nat}
    (hpc : base.pc h = .fetched msg ref) (hothers : ∀ h', h' ≠ h → base.pc h' = .idle)
    (hnamespaces : base.namespaces = s.namespaces)
    (hsubscribes : base.subscribes = s.subscribes ++ [(h, msg)])
    (hsubscribed : base.subscribedStreams = s.subscribedStreams)
    (hforwarded : base.forwarded = s.forwarded) (hdata : base.dataStreams = [])
    (hprocessing : base.processing = []) :
    s.Joined base h msg ref (Machine.run step base [.addSubscriber h, .addStream h]) := by
  have hadd : step base (.addSubscriber h) =
      (base.addSubscriber ref h).goto h (.added msg ref) := by simp [step, hpc]
  have hrecord : step ((base.addSubscriber ref h).goto h (.added msg ref)) (.addStream h) =
      ((base.addSubscriber ref h).goto h (.added msg ref)).addStream h msg ref := by simp [step]
  simp only [Machine.run_cons, Machine.run_nil, hadd, hrecord]
  refine ⟨hnamespaces, hsubscribes, rfl, rfl, fun h' subid => ?_, rfl, hforwarded, fun h' => ?_, hdata,
    hprocessing⟩
  · rw [lookup_subscribed_addStream, subscribedStreams_goto, subscribedStreams_addSubscriber,
      hsubscribed]
  · rw [pc_addStream]
    split
    · rfl
    · next hne => simp [hne, hothers h' hne]

section GetObjectStream

variable {s : State H} {h : H} {msg : Subscribe} {publisher : H} {pick ref : Nat}

theorem getObjectStream_none
    (hfind : (s.incomingStreams publisher).streamIDGetStream s.getStreamID msg.getStreamID pick = none) :
    s.getObjectStream h msg publisher pick = s.goto h (.missed msg publisher) := by
  simp only [State.getObjectStream, hfind]

theorem getObjectStream_anew (hanew : fetchesAnew msg = true) :
    s.getObjectStream h msg publisher pick = s.goto h (.missed msg publisher) := by
  simp only [State.getObjectStream, hanew, if_true]
  split <;> rfl

theorem getObjectStream_some
    (hfind : (s.incomingStreams publisher).streamIDGetStream s.getStreamID msg.getStreamID pick =
      some ref) (hanew : fetchesAnew msg = false) :
    s.getObjectStream h msg publisher pick =
      { s with writers := s.writers ++ [(h, cachedOk msg)] }.goto h (.fetched msg ref) := by
  simp [State.getObjectStream, hfind, hanew]

end GetObjectStream

/-- `HandleSubscribe` after `getPublisher`. -/
def State.accept (s : State H) (h : H) (msg : Subscribe) (publisher : H) : State H :=
  { s with subscribes := s.subscribes ++ [(h, msg)] }.goto h (.accepted msg publisher)

theorem joined_missed {s : State H} (hr : s.Resting) (h : H) (msg : Subscribe) (publisher : H)
    (draw : UInt32) :
    s.Joined (s.sendSubscribe h msg publisher draw) h msg s.relayStreams.length
      (Machine.run step ((s.accept h msg publisher).goto h (.missed msg publisher))
        [.sendSubscribe h draw, .addSubscriber h, .addStream h]) := by
  generalize hmissed : (s.accept h msg publisher).goto h (.missed msg publisher) = s₁
  have hsend : step s₁ (.sendSubscribe h draw) = s₁.sendSubscribe h msg publisher draw := by
    simp [step, ← hmissed]
  rw [Machine.run_cons, hsend]
  have hj : s.Joined (s₁.sendSubscribe h msg publisher draw) h msg s.relayStreams.length
      (Machine.run step (s₁.sendSubscribe h msg publisher draw) [.addSubscriber h, .addStream h]) := by
    subst hmissed
    refine joined_fetched ?_ (fun h' hne => ?_) rfl rfl rfl rfl hr.dataStreams hr.processing
    · rw [pc_sendSubscribe, if_pos rfl]
      rfl
    · simp [hne, State.accept, hr.pc]
  subst hmissed
  exact { hj with }

theorem joined_cached {s : State H} (hr : s.Resting) (h : H) (msg : Subscribe) (publisher : H)
    (ref : Nat) (writers : List (H × SubscribeOk)) (draw : UInt32) :
    s.Joined s h msg ref
      (Machine.run step ({ s.accept h msg publisher with writers := writers }.goto h (.fetched msg ref))
        [.sendSubscribe h draw, .addSubscriber h, .addStream h]) := by
  generalize hfetched : { s.accept h msg publisher with writers := writers }.goto h
    (.fetched msg ref) = s₁
  have hsend : step s₁ (.sendSubscribe h draw) = s₁ := by simp [step, ← hfetched]
  rw [Machine.run_cons, hsend]
  have hj : s.Joined s₁ h msg ref (Machine.run step s₁ [.addSubscriber h, .addStream h]) := by
    subst hfetched
    refine joined_fetched ?_ (fun h' hne => ?_) rfl rfl rfl rfl hr.dataStreams hr.processing
    · simp
    · simp [hne, State.accept, hr.pc]
  subst hfetched
  exact { hj with }

/-- **`HandleSubscribe`**: no publisher, a relay stream that was open, or a new one. -/
theorem handle_subscribe {s : State H} (hr : s.Resting) (h : H) (msg : Subscribe) (pick : Nat)
    (draw : UInt32) :
    (s.namespaces.lookup msg.trackNameSpace = none ∧ s.handle (.subscribe h msg pick draw) = s) ∨
    ∃ publisher, s.namespaces.lookup msg.trackNameSpace = some publisher ∧
      ((∃ ref, (s.incomingStreams publisher).streamIDGetStream s.getStreamID msg.getStreamID pick =
          some ref ∧ fetchesAnew msg = false ∧
          s.Joined s h msg ref (s.handle (.subscribe h msg pick draw))) ∨
        (((s.incomingStreams publisher).streamIDGetStream s.getStreamID msg.getStreamID pick = none ∨
            fetchesAnew msg = true) ∧
          s.Joined (s.sendSubscribe h msg publisher draw) h msg s.relayStreams.length
            (s.handle (.subscribe h msg pick draw)))) := by
  rcases hpub : s.namespaces.lookup msg.trackNameSpace with _ | publisher
  · refine Or.inl ⟨rfl, ?_⟩
    simp [State.handle, State.actions, step, State.handleSubscribe, hr.pc, hpub]
  refine Or.inr ⟨publisher, rfl, ?_⟩
  have haccept : step s (.subscribe h msg) = s.accept h msg publisher := by
    simp [step, State.handleSubscribe, State.accept, hr.pc, hpub]
  have hget : step (s.accept h msg publisher) (.getObjectStream h pick) =
      (s.accept h msg publisher).getObjectStream h msg publisher pick := by
    simp [step, State.accept]
  simp only [State.handle, State.actions, Machine.run_cons, haccept, hget]
  rcases hfind : (s.incomingStreams publisher).streamIDGetStream s.getStreamID msg.getStreamID pick
    with _ | ref
  · have hmiss : (s.accept h msg publisher).getObjectStream h msg publisher pick =
        (s.accept h msg publisher).goto h (.missed msg publisher) := getObjectStream_none hfind
    rw [hmiss]
    exact Or.inr ⟨Or.inl rfl, joined_missed hr h msg publisher draw⟩
  · cases hanew : fetchesAnew msg with
    | true =>
      have hmiss : (s.accept h msg publisher).getObjectStream h msg publisher pick =
          (s.accept h msg publisher).goto h (.missed msg publisher) := getObjectStream_anew hanew
      rw [hmiss]
      exact Or.inr ⟨Or.inr rfl, joined_missed hr h msg publisher draw⟩
    | false =>
      have hhit : (s.accept h msg publisher).getObjectStream h msg publisher pick = _ :=
        getObjectStream_some hfind hanew
      rw [hhit]
      exact Or.inl ⟨ref, rfl, rfl, joined_cached hr h msg publisher ref _ draw⟩

/-- What `ProcessMOQTStream` forwards for a subscriber. -/
def State.delivery (s : State H) (stream : DataStream H) (pick : H → Nat) (h : H) :
    Option (H × Nat × DataStream H) :=
  ((s.subscribedStreams h).getSubID s.getStreamID stream.streamID (pick h)).map (h, ·, stream)

/-- All goroutines of `ForwardStream` run. -/
theorem run_processMOQTStream (stream : DataStream H) (pick : H → Nat) (hs : List H) (s : State H) :
    Machine.run step { s with processing := hs.map (·, stream) }
        (hs.map fun h => .processMOQTStream 0 (pick h)) =
      { s with processing := [], forwarded := s.forwarded ++ hs.filterMap (s.delivery stream pick) } := by
  induction hs generalizing s with
  | nil => simp
  | cons h hs ih =>
    have hstep : step { s with processing := (h :: hs).map (·, stream) }
        (.processMOQTStream 0 (pick h)) =
          { s with
            processing := hs.map (·, stream)
            forwarded := s.forwarded ++ (s.delivery stream pick h).toList } := by
      have hids : State.getStreamID { s with processing := hs.map (·, stream) } = s.getStreamID := rfl
      cases hid : (s.subscribedStreams h).getSubID s.getStreamID stream.streamID (pick h) <;>
        simp [step, State.processMOQTStream, State.delivery, hids, hid]
    have hacts : (h :: hs).map (fun h => Action.processMOQTStream (H := H) 0 (pick h)) =
        .processMOQTStream 0 (pick h) :: hs.map fun h => .processMOQTStream 0 (pick h) := rfl
    rw [hacts, Machine.run_cons, hstep]
    have hrun := ih { s with forwarded := s.forwarded ++ (s.delivery stream pick h).toList }
    have hsame : State.delivery { s with forwarded := s.forwarded ++ (s.delivery stream pick h).toList }
        stream pick = s.delivery stream pick := rfl
    rw [hsame] at hrun
    rw [hrun, List.filterMap_cons]
    cases s.delivery stream pick h <;> simp

/-- **`DoHandle`** on a data stream of an open relay stream. -/
theorem handle_dataStream {s : State H} (hr : s.Resting) {publisher : H} {subid ref : Nat}
    {rs : RelayStream H} (hlookup : (s.incomingStreams publisher).lookup subid = some ref)
    (hrs : s.relayStreams[ref]? = some rs) (pick : H → Nat) :
    s.handle (.dataStream publisher subid pick) =
      { s with forwarded := s.forwarded ++
          rs.subscribers.filterMap (s.delivery ⟨publisher, subid, rs.streamID, ref⟩ pick) } := by
  obtain ⟨hpc, hdata, hprocessing⟩ := hr
  have haudience : s.audience publisher subid = rs.subscribers := by
    simp [State.audience, StreamsMap.subIDGetStream, hlookup, hrs]
  have hfound : step s (.dataStream publisher subid) =
      { s with dataStreams := [⟨publisher, subid, rs.streamID, ref⟩] } := by
    simp [step, State.doHandle, StreamsMap.subIDGetStream, hlookup, getStreamID_eq hrs, hdata]
  have hspread : step { s with dataStreams := [⟨publisher, subid, rs.streamID, ref⟩] }
      (.forwardStream 0) =
        { s with processing := rs.subscribers.map (·, ⟨publisher, subid, rs.streamID, ref⟩) } := by
    simp [step, State.forwardStream, hrs, hdata, hprocessing]
  rw [State.handle, State.actions, haudience, Machine.run_cons, Machine.run_cons, hfound, hspread,
    run_processMOQTStream]
  rw [hprocessing]

theorem handle_dataStream_none {s : State H} (hr : s.Resting) {publisher : H} {subid : Nat}
    (hnone : (s.incomingStreams publisher).lookup subid = none) (pick : H → Nat) :
    s.handle (.dataStream publisher subid pick) = s := by
  simp [State.handle, State.actions, State.audience, StreamsMap.subIDGetStream, hnone, step,
    State.doHandle, State.forwardStream, hr.dataStreams]

theorem handle_announce {s : State H} (hr : s.Resting) (publisher : H) (msg : Announce) :
    s.handle (.announce publisher msg) = s.handleAnnounce publisher msg := by
  simp [State.handle, State.actions, step, hr.pc]

theorem handle_unsubscribe {s : State H} (hr : s.Resting) (h : H) (msg : Unsubcribe) :
    s.handle (.unsubscribe h msg) = s.handleUnsubscribe h msg := by
  simp [State.handle, State.actions, step, hr.pc]

end MoqQuic.Moqt
