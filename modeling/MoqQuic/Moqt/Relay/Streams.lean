import MoqQuic.Moqt.Relay

/-!
# MoqQuic.Moqt.Relay.Streams

What a step of the relay can do, and the store of relay streams.

`steps_step` lists the effects of each action; the invariants of the relay are
proved by cases on it.  `State.Store` ties the store of relay streams to the
`IncomingStreams` of the publishers, which works out as long as the ids that
`SendSubscribe` draws are not in use at the publisher.
-/

namespace MoqQuic.Moqt

open Wire

/-! ## lookups -/

namespace StreamsMap

variable {T : Type} {streams : StreamsMap T} {getStreamID : T → Bytes} {streamid : Bytes} {pick : Nat}

theorem find_eq_some {e : Sigma fun _ : Nat => T}
    (h : streams.find getStreamID streamid pick = some e) :
    streams.lookup e.1 = some e.2 ∧ getStreamID e.2 = streamid := by
  have hmem : e ∈ streams.named getStreamID streamid := List.mem_of_getElem? h
  rw [named, List.mem_filter, decide_eq_true_eq] at hmem
  exact ⟨AList.mem_lookup_iff.mpr hmem.1, hmem.2⟩

variable {subid : Nat}

theorem find_eq_none (h : streams.find getStreamID streamid pick = none) {os : T}
    (hlookup : streams.lookup subid = some os) : getStreamID os ≠ streamid := by
  intro hid
  have hmem : ⟨subid, os⟩ ∈ streams.named getStreamID streamid := by
    rw [named, List.mem_filter, decide_eq_true_eq]
    exact ⟨AList.mem_lookup_iff.mp hlookup, hid⟩
  rw [find, List.getElem?_eq_none_iff] at h
  have hpos := List.length_pos_of_mem hmem
  have hlt := Nat.mod_lt pick hpos
  omega

theorem getSubID_eq_some (h : streams.getSubID getStreamID streamid pick = some subid) :
    ∃ os, streams.lookup subid = some os ∧ getStreamID os = streamid := by
  rw [getSubID, Option.map_eq_some_iff] at h
  obtain ⟨e, hfind, rfl⟩ := h
  exact ⟨e.2, find_eq_some hfind⟩

theorem getSubID_eq_none (h : streams.getSubID getStreamID streamid pick = none) {os : T}
    (hlookup : streams.lookup subid = some os) : getStreamID os ≠ streamid := by
  rw [getSubID, Option.map_eq_none_iff] at h
  exact find_eq_none h hlookup

theorem streamIDGetStream_eq_some {os : T}
    (h : streams.streamIDGetStream getStreamID streamid pick = some os) :
    (∃ subid, streams.lookup subid = some os) ∧ getStreamID os = streamid := by
  rw [streamIDGetStream, Option.map_eq_some_iff] at h
  obtain ⟨e, hfind, rfl⟩ := h
  obtain ⟨hlookup, hid⟩ := find_eq_some hfind
  exact ⟨⟨e.1, hlookup⟩, hid⟩

theorem lookup_addStream (streams : StreamsMap T) (subid : Nat) (os : T) (i : Nat) :
    (streams.addStream subid os).lookup i = if i = subid then some os else streams.lookup i := by
  rw [addStream]
  split
  · next h =>
    subst h
    exact AList.lookup_insert streams
  · next h => exact AList.lookup_insert_ne h

end StreamsMap

/-! ## the streams of the store -/

variable {H : Type}

/-- A relay stream without its subscribers: what never changes. -/
def RelayStream.fixed (rs : RelayStream H) : RelayStream H := { rs with subscribers := [] }

/-- The same relay streams, up to their subscribers. -/
def SameStreams (l l' : List (RelayStream H)) : Prop :=
  l'.map RelayStream.fixed = l.map RelayStream.fixed

variable {s : State H} {rs : RelayStream H} {ref : Nat} {msg : Subscribe} {ref' : Nat}
  {l l' : List (RelayStream H)}

theorem SameStreams.getElem? (h : SameStreams l l') {rs' : RelayStream H}
    (hrs' : l'[ref]? = some rs') : ∃ rs, l[ref]? = some rs ∧ rs.fixed = rs'.fixed := by
  have heq := congrArg (·[ref]?) h
  simp only [List.getElem?_map, hrs', Option.map_some] at heq
  exact Option.map_eq_some_iff.mp heq.symm

theorem SameStreams.fields (h : SameStreams l l') {rs' : RelayStream H}
    (hrs' : l'[ref]? = some rs') : ∃ rs, l[ref]? = some rs ∧ rs.subID = rs'.subID ∧
      rs.streamID = rs'.streamID ∧ rs.publisher = rs'.publisher ∧ rs.request = rs'.request := by
  obtain ⟨rs, hrs, hfixed⟩ := h.getElem? hrs'
  exact ⟨rs, hrs, by simpa [RelayStream.fixed] using hfixed⟩

theorem SameStreams.symm (h : SameStreams l l') : SameStreams l' l :=
  Eq.symm h

theorem sameStreams_modify (l : List (RelayStream H)) (ref : Nat) {f : RelayStream H → RelayStream H}
    (hf : ∀ rs, (f rs).fixed = rs.fixed) : SameStreams l (l.modify ref f) := by
  induction l generalizing ref with
  | nil => simp [SameStreams]
  | cons rs l ih =>
    cases ref with
    | zero => simp [SameStreams, hf]
    | succ ref => simpa [SameStreams] using ih ref

/-- What the removal of a subscriber leaves alone: all but the store, and of the store
all but that subscriber. -/
structure State.Thinned (s : State H) (h : H) (s' : State H) : Prop where
  rest : s' = { s with relayStreams := s'.relayStreams }
  same : SameStreams s.relayStreams s'.relayStreams
  subset : ∀ (ref : Nat) (rs rs' : RelayStream H), s.relayStreams[ref]? = some rs →
    s'.relayStreams[ref]? = some rs' → rs'.subscribers ⊆ rs.subscribers
  others : ∀ (ref : Nat) (rs rs' : RelayStream H), s.relayStreams[ref]? = some rs →
    s'.relayStreams[ref]? = some rs' → ∀ h' ∈ rs.subscribers, h' ≠ h → h' ∈ rs'.subscribers

theorem State.Thinned.refl (s : State H) (h : H) : s.Thinned h s := by
  refine ⟨rfl, rfl, fun ref rs rs' hrs hrs' => ?_, fun ref rs rs' hrs hrs' h' hh' _ => ?_⟩
  · rw [hrs, Option.some.injEq] at hrs'
    exact hrs' ▸ List.Subset.refl _
  · rw [hrs, Option.some.injEq] at hrs'
    exact hrs' ▸ hh'

theorem State.Thinned.trans {s s' s'' : State H} {h : H} (ht : s.Thinned h s')
    (ht' : s'.Thinned h s'') : s.Thinned h s'' := by
  refine ⟨?_, ht'.same.trans ht.same, fun ref rs rs'' hrs hrs'' => ?_,
    fun ref rs rs'' hrs hrs'' h' hh' hne => ?_⟩
  · rw [ht'.rest, ht.rest]
  · obtain ⟨rs', hrs', -⟩ := ht'.same.getElem? hrs''
    exact List.Subset.trans (ht'.subset ref rs' rs'' hrs' hrs'') (ht.subset ref rs rs' hrs hrs')
  · obtain ⟨rs', hrs', -⟩ := ht'.same.getElem? hrs''
    exact ht'.others ref rs' rs'' hrs' hrs'' h' (ht.others ref rs rs' hrs hrs' h' hh' hne) hne

/-- The store and the `IncomingStreams` of the publishers agree. -/
structure State.Store (s : State H) : Prop where
  incoming : ∀ publisher subid ref, (s.incomingStreams publisher).lookup subid = some ref →
    ∃ rs, s.relayStreams[ref]? = some rs ∧ rs.publisher = publisher ∧ rs.subID = subid
  registered : ∀ (ref : Nat) (rs : RelayStream H), s.relayStreams[ref]? = some rs →
    (s.incomingStreams rs.publisher).lookup rs.subID = some ref
  streamID : ∀ (ref : Nat) (rs : RelayStream H), s.relayStreams[ref]? = some rs → rs.streamID = rs.request.getStreamID

theorem store_init : ({} : State H).Store :=
  ⟨nofun, nofun, nofun⟩

theorem getStreamID_eq (hrs : s.relayStreams[ref]? = some rs) :
    s.getStreamID ref = rs.streamID := by
  rw [State.getStreamID, hrs]

/-- A relay stream is known by its publisher and subscribe id. -/
theorem State.Store.ref_unique (hs : s.Store) {ref ref' : Nat} {rs rs' : RelayStream H}
    (hrs : s.relayStreams[ref]? = some rs) (hrs' : s.relayStreams[ref']? = some rs')
    (hpub : rs.publisher = rs'.publisher) (hid : rs.subID = rs'.subID) : ref = ref' := by
  have h := hs.registered ref rs hrs
  rw [hpub, hid, hs.registered ref' rs' hrs', Option.some.injEq] at h
  exact h.symm

theorem State.Store.congr {s s' : State H} (hs : s.Store)
    (hincoming : s'.incomingStreams = s.incomingStreams)
    (hsame : SameStreams s.relayStreams s'.relayStreams) : s'.Store := by
  constructor
  · intro publisher subid ref hlookup
    rw [hincoming] at hlookup
    obtain ⟨rs, hrs, hpub, hid⟩ := hs.incoming publisher subid ref hlookup
    obtain ⟨rs', hrs', hid', -, hpub', -⟩ := hsame.symm.fields hrs
    exact ⟨rs', hrs', hpub'.trans hpub, hid'.trans hid⟩
  · intro ref rs' hrs'
    obtain ⟨rs, hrs, hid, -, hpub, -⟩ := hsame.fields hrs'
    rw [hincoming, ← hpub, ← hid]
    exact hs.registered ref rs hrs
  · intro ref rs' hrs'
    obtain ⟨rs, hrs, -, hid, -, hrequest⟩ := hsame.fields hrs'
    rw [← hid, ← hrequest]
    exact hs.streamID ref rs hrs

/-! ## what a step can do -/

variable [DecidableEq H]

/-! ### the fields after each change -/

section

variable (s : State H)

@[simp, grind =] theorem pc_goto (h : H) (pc : Pc H) (h' : H) :
    (s.goto h pc).pc h' = if h' = h then pc else s.pc h' := by
  simp only [State.goto, Function.update_apply]

@[simp, grind =] theorem relayStreams_goto (h : H) (pc : Pc H) :
    (s.goto h pc).relayStreams = s.relayStreams := rfl

@[simp, grind =] theorem subscribedStreams_goto (h : H) (pc : Pc H) :
    (s.goto h pc).subscribedStreams = s.subscribedStreams := rfl

@[simp, grind =] theorem unanswered_goto (h : H) (pc : Pc H) :
    (s.goto h pc).unanswered = s.unanswered := rfl

@[simp, grind =] theorem subscribes_goto (h : H) (pc : Pc H) :
    (s.goto h pc).subscribes = s.subscribes := rfl

@[simp, grind =] theorem pc_addSubscriber (ref : Nat) (h : H) :
    (s.addSubscriber ref h).pc = s.pc := rfl

@[simp, grind =] theorem subscribedStreams_addSubscriber (ref : Nat) (h : H) :
    (s.addSubscriber ref h).subscribedStreams = s.subscribedStreams := rfl

@[simp, grind =] theorem subscribes_addSubscriber (ref : Nat) (h : H) :
    (s.addSubscriber ref h).subscribes = s.subscribes := rfl

section

variable (h : H) (msg : Subscribe)
include h

@[simp, grind =] theorem pc_sendSubscribe (publisher : H)
    (draw : UInt32) (h' : H) :
    (s.sendSubscribe h msg publisher draw).pc h' =
      if h' = h then .fetched msg s.relayStreams.length else s.pc h' := by
  simp only [State.sendSubscribe, pc_goto]

@[simp, grind =] theorem subscribedStreams_sendSubscribe (publisher : H)
    (draw : UInt32) : (s.sendSubscribe h msg publisher draw).subscribedStreams = s.subscribedStreams := rfl

@[simp, grind =] theorem subscribes_sendSubscribe (publisher : H)
    (draw : UInt32) : (s.sendSubscribe h msg publisher draw).subscribes = s.subscribes := rfl

@[simp, grind =] theorem unanswered_sendSubscribe (publisher : H) (draw : UInt32) :
    (s.sendSubscribe h msg publisher draw).unanswered = s.unanswered ++ [(publisher, draw.toNat)] :=
  rfl

@[simp, grind =] theorem pc_addStream (ref : Nat) (h' : H) :
    (s.addStream h msg ref).pc h' = if h' = h then .idle else s.pc h' := by
  simp only [State.addStream, pc_goto]

@[simp, grind =] theorem relayStreams_addStream (ref : Nat) :
    (s.addStream h msg ref).relayStreams = s.relayStreams := rfl

@[simp, grind =] theorem subscribes_addStream (ref : Nat) :
    (s.addStream h msg ref).subscribes = s.subscribes := rfl

@[simp, grind =] theorem lookup_subscribed_addStream (ref : Nat) (h' : H) (subid : Nat) :
    ((s.addStream h msg ref).subscribedStreams h').lookup subid =
      if h' = h ∧ subid = msg.subscribeID then some ref
      else (s.subscribedStreams h').lookup subid := by
  have heq : (s.addStream h msg ref).subscribedStreams h' =
      Function.update s.subscribedStreams h
        ((s.subscribedStreams h).addStream msg.subscribeID ref) h' := rfl
  rw [heq]
  by_cases hh : h' = h
  · subst hh
    simp [StreamsMap.lookup_addStream]
  · simp [hh]

end

end

/-- The effects of the actions; an action that is not enabled has none. -/
inductive Steps (s : State H) : Action H → State H → Prop
  | skip (a : Action H) : Steps s a s
  | announced (publisher : H) (msg : Announce) (namespaces : AList fun _ : Bytes => H) :
      Steps s (.announce publisher msg) { s with namespaces := namespaces }
  | accepted {h : H} {msg : Subscribe} {publisher : H} (hpc : s.pc h = .idle)
      (hpub : s.namespaces.lookup msg.trackNameSpace = some publisher) :
      Steps s (.subscribe h msg)
        ({ s with subscribes := s.subscribes ++ [(h, msg)] }.goto h (.accepted msg publisher))
  | missed {h : H} {msg : Subscribe} {publisher : H} (pick : Nat)
      (hpc : s.pc h = .accepted msg publisher) :
      Steps s (.getObjectStream h pick) (s.goto h (.missed msg publisher))
  | cached {h : H} {msg : Subscribe} {publisher : H} {pick subid ref : Nat}
      (hpc : s.pc h = .accepted msg publisher) (hanew : fetchesAnew msg = false)
      (hfind : (s.incomingStreams publisher).streamIDGetStream s.getStreamID msg.getStreamID pick =
        some ref)
      (hlookup : (s.incomingStreams publisher).lookup subid = some ref)
      (hid : s.getStreamID ref = msg.getStreamID) :
      Steps s (.getObjectStream h pick)
        ({ s with writers := s.writers ++ [(h, cachedOk msg)] }.goto h (.fetched msg ref))
  | opened {h : H} {msg : Subscribe} {publisher : H} (draw : UInt32)
      (hpc : s.pc h = .missed msg publisher) :
      Steps s (.sendSubscribe h draw) (s.sendSubscribe h msg publisher draw)
  | added {h : H} {msg : Subscribe} {ref : Nat} (hpc : s.pc h = .fetched msg ref) :
      Steps s (.addSubscriber h) ((s.addSubscriber ref h).goto h (.added msg ref))
  | recorded {h : H} {msg : Subscribe} {ref : Nat} (hpc : s.pc h = .added msg ref) :
      Steps s (.addStream h) (s.addStream h msg ref)
  | wrote {i : Nat} {ok : H × SubscribeOk} (hi : s.writers[i]? = some ok) :
      Steps s (.writeOk i) { s with writers := s.writers.eraseIdx i, oks := s.oks ++ [ok] }
  | ignored {publisher : H} {msg : SubscribeOk} (hpc : s.pc publisher = .idle)
      (hnone : ∀ (ref : Nat) (rs : RelayStream H),
        (s.incomingStreams publisher).lookup msg.subscribeID = some ref →
          s.relayStreams[ref]? ≠ some rs) :
      Steps s (.subscribeOk publisher msg)
        { s with unanswered := s.unanswered.erase (publisher, msg.subscribeID) }
  | answered {publisher : H} {msg : SubscribeOk} {ref : Nat} {rs : RelayStream H}
      (hpc : s.pc publisher = .idle)
      (hlookup : (s.incomingStreams publisher).lookup msg.subscribeID = some ref)
      (hrs : s.relayStreams[ref]? = some rs) :
      Steps s (.subscribeOk publisher msg)
        ({ s with unanswered := s.unanswered.erase (publisher, msg.subscribeID) }.goto publisher
          (.forwarding ref msg rs.subscribers []))
  | served {publisher h : H} {pick ref subid : Nat} {msg : SubscribeOk} {due served : List H}
      {rs : RelayStream H} (hpc : s.pc publisher = .forwarding ref msg due served)
      (hrs : s.relayStreams[ref]? = some rs) (hsub : h ∈ rs.subscribers) (hnew : h ∉ served)
      {ref' : Nat} (hlookup : (s.subscribedStreams h).lookup subid = some ref')
      (hid : s.getStreamID ref' = rs.streamID) :
      Steps s (.forwardOk publisher h pick)
        ({ s with oks := s.oks ++ [(h, { msg with subscribeID := subid })] }.goto publisher
          (.forwarding ref msg due (h :: served)))
  | unserved {publisher h : H} {pick ref : Nat} {msg : SubscribeOk} {due served : List H}
      {rs : RelayStream H} (hpc : s.pc publisher = .forwarding ref msg due served)
      (hrs : s.relayStreams[ref]? = some rs) (hsub : h ∈ rs.subscribers) (hnew : h ∉ served)
      (hnone : ∀ subid ref', (s.subscribedStreams h).lookup subid = some ref' →
        s.getStreamID ref' ≠ rs.streamID) :
      Steps s (.forwardOk publisher h pick)
        (s.goto publisher (.forwarding ref msg due (h :: served)))
  | ended {publisher : H} {ref : Nat} {msg : SubscribeOk} {due served : List H}
      {rs : RelayStream H} (hpc : s.pc publisher = .forwarding ref msg due served)
      (hrs : s.relayStreams[ref]? = some rs) (hdue : ∀ h ∈ due, h ∈ rs.subscribers → h ∈ served) :
      Steps s (.endForward publisher) (s.goto publisher .idle)
  | unsubscribed {h : H} {msg : Unsubcribe} {ref : Nat} (hpc : s.pc h = .idle)
      (hlookup : (s.subscribedStreams h).lookup msg.subscriptionID = some ref) :
      Steps s (.unsubscribe h msg) (s.removeSubscriber ref h)
  | closed (h : H) : Steps s (.close h) (s.handleClose h)
  | found {publisher : H} {subid ref : Nat}
      (hlookup : (s.incomingStreams publisher).lookup subid = some ref) :
      Steps s (.dataStream publisher subid)
        { s with dataStreams := s.dataStreams ++ [⟨publisher, subid, s.getStreamID ref, ref⟩] }
  | spread {i : Nat} {stream : DataStream H} {rs : RelayStream H}
      (hi : s.dataStreams[i]? = some stream) (hrs : s.relayStreams[stream.relayStream]? = some rs) :
      Steps s (.forwardStream i)
        { s with
          dataStreams := s.dataStreams.eraseIdx i
          processing := s.processing ++ rs.subscribers.map (·, stream) }
  | dropped {i pick : Nat} {h : H} {stream : DataStream H}
      (hi : s.processing[i]? = some (h, stream)) :
      Steps s (.processMOQTStream i pick) { s with processing := s.processing.eraseIdx i }
  | forwarded {i pick subid : Nat} {h : H} {stream : DataStream H}
      (hi : s.processing[i]? = some (h, stream)) :
      Steps s (.processMOQTStream i pick)
        { s with
          processing := s.processing.eraseIdx i
          forwarded := s.forwarded ++ [(h, subid, stream)] }

theorem steps_getObjectStream (s : State H) (h : H) (pick : Nat) :
    Steps s (.getObjectStream h pick) (step s (.getObjectStream h pick)) := by
  simp only [step, State.getObjectStream]
  split
  · next hpc =>
    split
    · exact .missed pick hpc
    · next hfind =>
      split
      · exact .missed pick hpc
      · next hanew =>
        obtain ⟨⟨subid, hlookup⟩, hid⟩ := StreamsMap.streamIDGetStream_eq_some hfind
        exact .cached hpc (by simpa using hanew) hfind hlookup hid
  · exact .skip _

theorem steps_subscribeOk (s : State H) (publisher : H) (msg : SubscribeOk) :
    Steps s (.subscribeOk publisher msg) (step s (.subscribeOk publisher msg)) := by
  simp only [step, State.handleSubscribeOk]
  split
  · next hpc =>
    split
    · next hnone =>
      refine .ignored hpc fun ref rs hlookup => ?_
      rw [StreamsMap.subIDGetStream, hlookup] at hnone
      contradiction
    · next hlookup =>
      split
      · next hdangling =>
        refine .ignored hpc fun ref rs hlookup' => ?_
        rw [StreamsMap.subIDGetStream, hlookup', Option.some.injEq] at hlookup
        rw [hlookup, hdangling]
        exact nofun
      · next hrs => exact .answered hpc hlookup hrs
  · exact .skip _

theorem steps_forwardOk (s : State H) (publisher h : H) (pick : Nat) :
    Steps s (.forwardOk publisher h pick) (step s (.forwardOk publisher h pick)) := by
  simp only [step, forwardOk, State.sendSubscribeOk]
  split
  · next hpc =>
    split
    · exact .skip _
    · next hrs =>
      split
      · next hsub =>
        split
        · next hnone =>
          exact .unserved hpc hrs hsub.1 hsub.2 fun subid ref' hlookup =>
            StreamsMap.getSubID_eq_none hnone hlookup
        · next hsome =>
          obtain ⟨ref', hlookup, hid⟩ := StreamsMap.getSubID_eq_some hsome
          exact .served hpc hrs hsub.1 hsub.2 hlookup hid
      · exact .skip _
  · exact .skip _

theorem steps_endForward (s : State H) (publisher : H) :
    Steps s (.endForward publisher) (step s (.endForward publisher)) := by
  simp only [step, endForward]
  split
  · next hpc =>
    split
    · exact .skip _
    · next hrs =>
      split
      · next hdue => exact .ended hpc hrs hdue
      · exact .skip _
  · exact .skip _

/-- Every step has one of the effects. -/
theorem steps_step (s : State H) (a : Action H) : Steps s a (step s a) := by
  cases a with
  | announce publisher msg =>
    simp only [step]
    split
    · exact .announced publisher msg _
    · exact .skip _
  | subscribe h msg =>
    simp only [step, State.handleSubscribe]
    split
    · next hpc =>
      split
      · exact .skip _
      · next hpub => exact .accepted hpc hpub
    · exact .skip _
  | getObjectStream h pick => exact steps_getObjectStream s h pick
  | sendSubscribe h draw =>
    simp only [step]
    split
    · next hpc => exact .opened draw hpc
    · exact .skip _
  | addSubscriber h | addStream h =>
    simp only [step]
    split
    · next hpc => first | exact .added hpc | exact .recorded hpc
    · exact .skip _
  | writeOk i =>
    simp only [step, State.writeOk]
    split
    · exact .skip _
    · next hi => exact .wrote hi
  | subscribeOk publisher msg => exact steps_subscribeOk s publisher msg
  | forwardOk publisher h pick => exact steps_forwardOk s publisher h pick
  | endForward publisher => exact steps_endForward s publisher
  | unsubscribe h msg =>
    simp only [step, State.handleUnsubscribe]
    split
    · next hpc =>
      split
      · exact .skip _
      · next hlookup => exact .unsubscribed hpc hlookup
    · exact .skip _
  | close h => exact .closed h
  | dataStream publisher subid =>
    simp only [step, State.doHandle]
    split
    · exact .skip _
    · next hlookup => exact .found hlookup
  | forwardStream i =>
    simp only [step, State.forwardStream]
    split
    · exact .skip _
    · next hi =>
      split
      · exact .skip _
      · next hrs => exact .spread hi hrs
  | processMOQTStream i pick =>
    simp only [step, State.processMOQTStream]
    split
    · exact .skip _
    · next hi =>
      split
      · exact .dropped hi
      · exact .forwarded hi

/-! ## the store -/

theorem sameStreams_removeSubscriber (s : State H) (ref : Nat) (h : H) :
    SameStreams s.relayStreams (s.removeSubscriber ref h).relayStreams :=
  sameStreams_modify _ _ fun _ => rfl

theorem sameStreams_addSubscriber (s : State H) (ref : Nat) (h : H) :
    SameStreams s.relayStreams (s.addSubscriber ref h).relayStreams :=
  sameStreams_modify _ _ fun _ => rfl

theorem getElem?_removeSubscriber {h : H} (hrs : s.relayStreams[ref']? = some rs) :
    (s.removeSubscriber ref h).relayStreams[ref']? =
      some (if ref = ref' then rs.removeSubscriber h else rs) := by
  rw [State.removeSubscriber, List.getElem?_modify, hrs]
  rfl

theorem getElem?_addSubscriber {h : H} (hrs : s.relayStreams[ref']? = some rs) :
    (s.addSubscriber ref h).relayStreams[ref']? =
      some (if ref = ref' then rs.addSubscriber h else rs) := by
  rw [State.addSubscriber, List.getElem?_modify, hrs]
  rfl

theorem thinned_removeSubscriber (s : State H) (ref : Nat) (h : H) :
    s.Thinned h (s.removeSubscriber ref h) := by
  refine ⟨rfl, sameStreams_removeSubscriber s ref h, fun ref' rs rs' hrs hrs' => ?_,
    fun ref' rs rs' hrs hrs' h' hh' hne => ?_⟩
  · rw [getElem?_removeSubscriber hrs, Option.some.injEq] at hrs'
    subst hrs'
    split
    · exact List.filter_sublist.subset
    · exact List.Subset.refl _
  · rw [getElem?_removeSubscriber hrs, Option.some.injEq] at hrs'
    subst hrs'
    split
    · simp [RelayStream.removeSubscriber, hh', hne]
    · exact hh'

theorem thinned_handleClose (s : State H) (h : H) : s.Thinned h (s.handleClose h) := by
  have hfold : ∀ (es : List (Sigma fun _ : Nat => Nat)) (s : State H),
      s.Thinned h (es.foldl (fun s e => s.removeSubscriber e.2 h) s) := by
    intro es
    induction es with
    | nil => exact fun s => State.Thinned.refl s h
    | cons e es ih => exact fun s => (thinned_removeSubscriber s e.2 h).trans (ih _)
  exact hfold _ s

theorem getElem?_addSubscriber_of {h : H}
    {rs' : RelayStream H} (hrs' : (s.addSubscriber ref h).relayStreams[ref']? = some rs') :
    ∃ rs, s.relayStreams[ref']? = some rs ∧
      rs' = if ref = ref' then rs.addSubscriber h else rs := by
  obtain ⟨rs, hrs, -⟩ := (sameStreams_addSubscriber s ref h).getElem? hrs'
  rw [getElem?_addSubscriber hrs, Option.some.injEq] at hrs'
  exact ⟨rs, hrs, hrs'.symm⟩

/-- The id that `SendSubscribe` draws is not in use at the publisher. -/
def DrawsFresh (s : State H) : Action H → Prop
  | .sendSubscribe h draw =>
    match s.pc h with
    | .missed _ publisher => (s.incomingStreams publisher).lookup draw.toNat = none
    | _ => True
  | _ => True

theorem getElem?_sendSubscribe {h : H} {publisher : H} {draw : UInt32}
    (hrs : (s.sendSubscribe h msg publisher draw).relayStreams[ref]? = some rs) :
    s.relayStreams[ref]? = some rs ∨ ref = s.relayStreams.length ∧
      rs = .newRelayStream draw.toNat msg.getStreamID publisher
        { msg with subscribeID := draw.toNat } := by
  have hrs' : (s.relayStreams ++ [RelayStream.newRelayStream draw.toNat msg.getStreamID publisher
      { msg with subscribeID := draw.toNat }])[ref]? = some rs := hrs
  grind

theorem getElem?_sendSubscribe_old {h : H} {publisher : H}
    {draw : UInt32} (hrs : s.relayStreams[ref]? = some rs) :
    (s.sendSubscribe h msg publisher draw).relayStreams[ref]? = some rs := by
  have hlt : ref < s.relayStreams.length := (List.getElem?_eq_some_iff.mp hrs).1
  exact (List.getElem?_append_left hlt).trans hrs

theorem getElem?_sendSubscribe_new (s : State H) (h : H) (msg : Subscribe) (publisher : H)
    (draw : UInt32) :
    (s.sendSubscribe h msg publisher draw).relayStreams[s.relayStreams.length]? =
      some (.newRelayStream draw.toNat msg.getStreamID publisher
        { msg with subscribeID := draw.toNat }) :=
  List.getElem?_concat_length

theorem incoming_sendSubscribe (s : State H) (h : H) (msg : Subscribe) (publisher : H)
    (draw : UInt32) (publisher' : H) (subid : Nat) :
    ((s.sendSubscribe h msg publisher draw).incomingStreams publisher').lookup subid =
      if publisher' = publisher ∧ subid = draw.toNat then some s.relayStreams.length
      else (s.incomingStreams publisher').lookup subid := by
  have heq : (s.sendSubscribe h msg publisher draw).incomingStreams publisher' =
      Function.update s.incomingStreams publisher
        ((s.incomingStreams publisher).addStream draw.toNat s.relayStreams.length) publisher' := rfl
  rw [heq]
  by_cases hp : publisher' = publisher
  · subst hp
    simp [StreamsMap.lookup_addStream]
  · simp [hp]

theorem store_sendSubscribe (hs : s.Store) {h : H} {publisher : H} {draw : UInt32}
    (hfresh : (s.incomingStreams publisher).lookup draw.toNat = none) :
    (s.sendSubscribe h msg publisher draw).Store := by
  constructor
  · intro publisher' subid ref hlookup
    rw [incoming_sendSubscribe] at hlookup
    split at hlookup
    · next heq =>
      obtain ⟨rfl, rfl⟩ := heq
      cases hlookup
      exact ⟨_, getElem?_sendSubscribe_new s h msg publisher' draw, rfl, rfl⟩
    · obtain ⟨rs, hrs, hrest⟩ := hs.incoming publisher' subid ref hlookup
      exact ⟨rs, getElem?_sendSubscribe_old hrs, hrest⟩
  · intro ref rs hrs
    rw [incoming_sendSubscribe]
    obtain hold | ⟨rfl, rfl⟩ := getElem?_sendSubscribe hrs
    · have hlookup := hs.registered ref rs hold
      rw [if_neg, hlookup]
      rintro ⟨hpub, hid⟩
      rw [hpub, hid, hfresh] at hlookup
      contradiction
    · rw [if_pos ⟨rfl, rfl⟩]
  · intro ref rs hrs
    obtain hold | ⟨-, rfl⟩ := getElem?_sendSubscribe hrs
    · exact hs.streamID ref rs hold
    · rfl

end MoqQuic.Moqt
