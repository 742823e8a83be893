import MoqQuic.Moqt.Relay.Streams

/-!
# MoqQuic.Moqt.Relay.Isolation

Which sessions a data stream is forwarded to.

A relay stream is opened for a track, that is a namespace and a name, but it is
found again by its stream id, `namespace_name`, and different tracks can share
one.  `forwards_isolated` says that data streams reach only sessions that have
subscribed to their track in every run in which tracks with one stream id are the
same track and drawn subscribe ids are fresh.
-/

namespace MoqQuic.Moqt

open Wire

/-- The same namespace and the same name. -/
def SameTrack (m m' : Subscribe) : Prop :=
  m.trackNameSpace = m'.trackNameSpace ∧ m.trackName = m'.trackName

instance (m m' : Subscribe) : Decidable (SameTrack m m') := inferInstanceAs (Decidable (_ ∧ _))

theorem SameTrack.symm {m m' : Subscribe} (h : SameTrack m m') : SameTrack m' m :=
  ⟨h.1.symm, h.2.symm⟩

theorem SameTrack.trans {m m' m'' : Subscribe} (h : SameTrack m m') (h' : SameTrack m' m'') :
    SameTrack m m'' :=
  ⟨h.1.trans h'.1, h.2.trans h'.2⟩

theorem SameTrack.getStreamID_eq {m m' : Subscribe} (h : SameTrack m m') :
    m.getStreamID = m'.getStreamID := by
  simp only [Subscribe.getStreamID, h.1, h.2]

variable {H : Type}

/-- The session has an accepted `SUBSCRIBE` for the track. -/
def State.HasSubscribed (s : State H) (h : H) (m : Subscribe) : Prop :=
  ∃ x ∈ s.subscribes, x.1 = h ∧ SameTrack x.2 m

/-- Every stream in `forwarded` went to a session that has subscribed to the track of
each upstream subscription with its publisher and id. -/
def State.ForwardsIsolated (s : State H) : Prop :=
  ∀ x ∈ s.forwarded, ∀ rs ∈ s.relayStreams, rs.publisher = x.2.2.publisher →
    rs.subID = x.2.2.subID → s.HasSubscribed x.1 rs.request

/-- The stream belongs to a relay stream for whose track the session has
subscribed. -/
def State.Entitled (s : State H) (h : H) (stream : DataStream H) : Prop :=
  ∃ (ref : Nat) (rs : RelayStream H), s.relayStreams[ref]? = some rs ∧
    rs.publisher = stream.publisher ∧ rs.subID = stream.subID ∧ s.HasSubscribed h rs.request

/-- A goroutine in `HandleSubscribe` works for an accepted message, on a relay stream
of its track. -/
def State.PcTrack (s : State H) (h : H) : Pc H → Prop
  | .accepted msg _ | .missed msg _ => (h, msg) ∈ s.subscribes
  | .fetched msg ref | .added msg ref =>
    (h, msg) ∈ s.subscribes ∧
      ∃ rs : RelayStream H, s.relayStreams[ref]? = some rs ∧ SameTrack msg rs.request
  | .idle | .forwarding _ _ _ _ => True

/-- The subscribers of a relay stream, and the sessions its data streams go to, have
subscribed to its track. -/
structure State.Isolated (s : State H) : Prop where
  store : s.Store
  tracks : ∀ x ∈ s.subscribes, ∀ y ∈ s.subscribes, x.2.getStreamID = y.2.getStreamID →
    SameTrack x.2 y.2
  requested : ∀ (ref : Nat) (rs : RelayStream H), s.relayStreams[ref]? = some rs →
    ∃ x ∈ s.subscribes, SameTrack x.2 rs.request
  pcs : ∀ h, s.PcTrack h (s.pc h)
  subscribers : ∀ (ref : Nat) (rs : RelayStream H), s.relayStreams[ref]? = some rs →
    ∀ h ∈ rs.subscribers, s.HasSubscribed h rs.request
  dataStreams : ∀ stream ∈ s.dataStreams, ∃ rs : RelayStream H,
    s.relayStreams[stream.relayStream]? = some rs ∧ rs.publisher = stream.publisher ∧
      rs.subID = stream.subID
  processing : ∀ x ∈ s.processing, s.Entitled x.1 x.2
  forwarded : ∀ x ∈ s.forwarded, s.Entitled x.1 x.2.2

theorem isolated_init : ({} : State H).Isolated :=
  ⟨store_init, nofun, nofun, fun _ => trivial, nofun, nofun, nofun, nofun⟩

/-- Streams are known by publisher and id, so one entitlement is enough. -/
theorem State.Isolated.forwardsIsolated {s : State H} (hi : s.Isolated) : s.ForwardsIsolated := by
  intro x hx rs hrs hpub hid
  obtain ⟨ref, hrs⟩ := List.getElem?_of_mem hrs
  obtain ⟨ref', rs', hrs', hpub', hid', hsub⟩ := hi.forwarded x hx
  have heq := hi.store.ref_unique hrs hrs' (hpub.trans hpub'.symm) (hid.trans hid'.symm)
  subst heq
  rw [hrs, Option.some.injEq] at hrs'
  exact hrs' ▸ hsub

/-! ## growing states -/

/-- Accepted messages and relay streams stay, the latter up to their subscribers. -/
structure State.Grows (s s' : State H) : Prop where
  subscribes : s.subscribes ⊆ s'.subscribes
  streams : ∀ (ref : Nat) (rs : RelayStream H), s.relayStreams[ref]? = some rs →
    ∃ rs' : RelayStream H, s'.relayStreams[ref]? = some rs' ∧ rs'.fixed = rs.fixed

variable {s s' : State H}

theorem grows_of_same (hsub : s.subscribes ⊆ s'.subscribes)
    (hsame : SameStreams s.relayStreams s'.relayStreams) : s.Grows s' :=
  ⟨hsub, fun _ _ hrs => hsame.symm.getElem? hrs⟩

variable {h : H} {msg : Subscribe}

theorem State.HasSubscribed.mono {m : Subscribe} (hh : s.HasSubscribed h m) (hg : s.Grows s') :
    s'.HasSubscribed h m := by
  obtain ⟨x, hx, htrack⟩ := hh
  exact ⟨x, hg.subscribes hx, htrack⟩

variable {stream : DataStream H}

theorem State.Entitled.mono (he : s.Entitled h stream) (hg : s.Grows s') :
    s'.Entitled h stream := by
  obtain ⟨ref, rs, hrs, hpub, hid, hsub⟩ := he
  obtain ⟨rs', hrs', hfixed⟩ := hg.streams ref rs hrs
  simp only [RelayStream.fixed, RelayStream.mk.injEq, and_true] at hfixed
  obtain ⟨hid', -, hpub', hreq⟩ := hfixed
  exact ⟨ref, rs', hrs', hpub'.trans hpub, hid'.trans hid, hreq ▸ hsub.mono hg⟩

theorem State.PcTrack.mono {pc : Pc H} (hp : s.PcTrack h pc) (hg : s.Grows s') :
    s'.PcTrack h pc := by
  cases pc with
  | idle | forwarding => trivial
  | accepted | missed => exact hg.subscribes hp
  | fetched msg ref | added msg ref =>
    obtain ⟨hmem, rs, hrs, htrack⟩ := hp
    obtain ⟨rs', hrs', hfixed⟩ := hg.streams ref rs hrs
    simp only [RelayStream.fixed, RelayStream.mk.injEq, and_true] at hfixed
    exact ⟨hg.subscribes hmem, rs', hrs', hfixed.2.2.2 ▸ htrack⟩

/-- The relay stream of a data stream is in the store. -/
def State.Matched (s : State H) (stream : DataStream H) : Prop :=
  ∃ rs : RelayStream H, s.relayStreams[stream.relayStream]? = some rs ∧
    rs.publisher = stream.publisher ∧ rs.subID = stream.subID

theorem State.Matched.mono (hm : s.Matched stream) (hg : s.Grows s') : s'.Matched stream := by
  obtain ⟨rs, hrs, hpub, hid⟩ := hm
  obtain ⟨rs', hrs', hfixed⟩ := hg.streams _ rs hrs
  simp only [RelayStream.fixed, RelayStream.mk.injEq, and_true] at hfixed
  exact ⟨rs', hrs', hfixed.2.2.1.trans hpub, hfixed.1.trans hid⟩

section

variable (hi : s.Isolated)

include hi

/-- Steps that accept no message and add no subscriber: it remains to look at the
goroutines and the data streams. -/
theorem State.Isolated.carry (hsub : s'.subscribes = s.subscribes)
    (hincoming : s'.incomingStreams = s.incomingStreams)
    (hsame : SameStreams s.relayStreams s'.relayStreams)
    (hthin : ∀ (ref : Nat) (rs rs' : RelayStream H), s.relayStreams[ref]? = some rs →
      s'.relayStreams[ref]? = some rs' → rs'.subscribers ⊆ rs.subscribers)
    (hpcs : ∀ h, s.PcTrack h (s'.pc h))
    (hdata : ∀ stream ∈ s'.dataStreams, s.Matched stream)
    (hproc : ∀ x ∈ s'.processing, s.Entitled x.1 x.2)
    (hfwd : ∀ x ∈ s'.forwarded, s.Entitled x.1 x.2.2) : s'.Isolated := by
  have hg : s.Grows s' := grows_of_same (hsub ▸ List.Subset.refl _) hsame
  refine ⟨hi.store.congr hincoming hsame, hsub ▸ hi.tracks, ?_, fun h => (hpcs h).mono hg, ?_,
    fun x hx => (hdata x hx).mono hg, fun x hx => (hproc x hx).mono hg,
    fun x hx => (hfwd x hx).mono hg⟩
  · intro ref rs' hrs'
    obtain ⟨rs, hrs, -, -, -, hrequest⟩ := hsame.fields hrs'
    rw [hsub, ← hrequest]
    exact hi.requested ref rs hrs
  · intro ref rs' hrs' h hh
    obtain ⟨rs, hrs, -, -, -, hrequest⟩ := hsame.fields hrs'
    rw [← hrequest]
    exact (hi.subscribers ref rs hrs h (hthin ref rs rs' hrs hrs' hh)).mono hg

/-- The same for steps that leave the store alone. -/
theorem State.Isolated.same (hsub : s'.subscribes = s.subscribes)
    (hincoming : s'.incomingStreams = s.incomingStreams)
    (hstreams : s'.relayStreams = s.relayStreams) (hpcs : ∀ h, s.PcTrack h (s'.pc h))
    (hdata : ∀ stream ∈ s'.dataStreams, s.Matched stream)
    (hproc : ∀ x ∈ s'.processing, s.Entitled x.1 x.2)
    (hfwd : ∀ x ∈ s'.forwarded, s.Entitled x.1 x.2.2) : s'.Isolated := by
  refine hi.carry hsub hincoming (by rw [hstreams]; rfl) ?_ hpcs hdata hproc hfwd
  intro ref rs rs' hrs hrs'
  rw [hstreams, hrs, Option.some.injEq] at hrs'
  exact hrs' ▸ List.Subset.refl _

/-! ## steps -/

theorem isolated_accepted (h : H)
    (hkey : ∀ x ∈ s.subscribes, x.2.getStreamID = msg.getStreamID → SameTrack x.2 msg) :
    State.Isolated { s with subscribes := s.subscribes ++ [(h, msg)] } := by
  have hg : s.Grows ({ s with subscribes := s.subscribes ++ [(h, msg)] }) :=
    grows_of_same (List.subset_append_left _ _) rfl
  refine ⟨hi.store.congr rfl rfl, ?_, ?_, fun h' => (hi.pcs h').mono hg, ?_, hi.dataStreams,
    fun x hx => (hi.processing x hx).mono hg, fun x hx => (hi.forwarded x hx).mono hg⟩
  · intro x hx y hy hxy
    rw [List.mem_append, List.mem_singleton] at hx hy
    obtain hx | rfl := hx
    · obtain hy | rfl := hy
      · exact hi.tracks x hx y hy hxy
      · exact hkey x hx hxy
    · obtain hy | rfl := hy
      · exact (hkey y hy hxy.symm).symm
      · exact ⟨rfl, rfl⟩
  · intro ref rs hrs
    obtain ⟨x, hx, htrack⟩ := hi.requested ref rs hrs
    exact ⟨x, hg.subscribes hx, htrack⟩
  · intro ref rs hrs h' hh'
    exact (hi.subscribers ref rs hrs h' hh').mono hg

theorem sameTrack_cached {publisher : H} {subid ref : Nat} (hmem : (h, msg) ∈ s.subscribes)
    (hlookup : (s.incomingStreams publisher).lookup subid = some ref)
    (hid : s.getStreamID ref = msg.getStreamID) :
    ∃ rs : RelayStream H, s.relayStreams[ref]? = some rs ∧ SameTrack msg rs.request := by
  obtain ⟨rs, hrs, -, -⟩ := hi.store.incoming publisher subid ref hlookup
  rw [getStreamID_eq hrs, hi.store.streamID ref rs hrs] at hid
  obtain ⟨x, hx, htrack⟩ := hi.requested ref rs hrs
  have hsame := hi.tracks x hx (h, msg) hmem (htrack.getStreamID_eq.trans hid)
  exact ⟨rs, hrs, hsame.symm.trans htrack⟩

theorem State.Isolated.thinned (ht : s.Thinned h s') : s'.Isolated := by
  have hrest := ht.rest
  exact hi.carry (by rw [hrest]) (by rw [hrest]) ht.same ht.subset (by rw [hrest]; exact hi.pcs)
    (by rw [hrest]; exact hi.dataStreams) (by rw [hrest]; exact hi.processing)
    (by rw [hrest]; exact hi.forwarded)

end

variable [DecidableEq H]

/-- Messages with one stream id are for one track, and drawn subscribe ids are
fresh. -/
def KeepsTracksApart (s : State H) (a : Action H) : Prop :=
  DrawsFresh s a ∧ match a with
    | .subscribe _ msg => ∀ x ∈ s.subscribes, x.2.getStreamID = msg.getStreamID → SameTrack x.2 msg
    | _ => True

theorem State.Isolated.goto {s : State H} (hi : s.Isolated) {pc : Pc H} (hpc : s.PcTrack h pc) :
    (s.goto h pc).Isolated := by
  refine hi.same rfl rfl rfl (fun h' => ?_) hi.dataStreams hi.processing hi.forwarded
  rw [pc_goto]
  split
  · next heq => exact heq ▸ hpc
  · exact hi.pcs h'

theorem isolated_opened {s : State H} (hi : s.Isolated) {publisher : H} {draw : UInt32}
    (hmem : (h, msg) ∈ s.subscribes)
    (hfresh : (s.incomingStreams publisher).lookup draw.toNat = none) :
    (s.sendSubscribe h msg publisher draw).Isolated := by
  have hg : s.Grows (s.sendSubscribe h msg publisher draw) :=
    ⟨List.Subset.refl _, fun ref rs hrs => ⟨rs, getElem?_sendSubscribe_old hrs, rfl⟩⟩
  refine ⟨store_sendSubscribe hi.store hfresh, hi.tracks, ?_, ?_, ?_,
    fun x hx => State.Matched.mono (hi.dataStreams x hx) hg,
    fun x hx => (hi.processing x hx).mono hg, fun x hx => (hi.forwarded x hx).mono hg⟩
  · intro ref rs hrs
    obtain hold | ⟨-, rfl⟩ := getElem?_sendSubscribe hrs
    · exact hi.requested ref rs hold
    · exact ⟨(h, msg), hmem, rfl, rfl⟩
  · intro h'
    rw [pc_sendSubscribe]
    split
    · next heq => exact ⟨heq ▸ hmem, _, getElem?_sendSubscribe_new s h msg publisher draw, rfl, rfl⟩
    · exact (hi.pcs h').mono hg
  · intro ref rs hrs h' hh'
    obtain hold | ⟨-, rfl⟩ := getElem?_sendSubscribe hrs
    · exact (hi.subscribers ref rs hold h' hh').mono hg
    · contradiction

theorem isolated_added {s : State H} (hi : s.Isolated) {ref : Nat}
    (htrack : s.PcTrack h (.fetched msg ref)) : (s.addSubscriber ref h).Isolated := by
  have hsame := sameStreams_addSubscriber s ref h
  have hg : s.Grows (s.addSubscriber ref h) := grows_of_same (List.Subset.refl _) hsame
  refine ⟨hi.store.congr rfl hsame, hi.tracks, ?_, fun h' => (hi.pcs h').mono hg, ?_,
    fun x hx => State.Matched.mono (hi.dataStreams x hx) hg,
    fun x hx => (hi.processing x hx).mono hg, fun x hx => (hi.forwarded x hx).mono hg⟩
  · intro ref' rs' hrs'
    obtain ⟨rs, hrs, rfl⟩ := getElem?_addSubscriber_of hrs'
    split
    · exact hi.requested ref' rs hrs
    · exact hi.requested ref' rs hrs
  · intro ref' rs' hrs' h' hh'
    obtain ⟨rs, hrs, rfl⟩ := getElem?_addSubscriber_of hrs'
    split at hh'
    · next heq =>
      subst heq
      rw [if_pos rfl]
      obtain rfl | hh' := List.mem_insert_iff.mp hh'
      · -- the new subscriber is the one whose message fetched the stream
        obtain ⟨hmem, rs', hrs', hsame'⟩ := htrack
        rw [hrs, Option.some.injEq] at hrs'
        exact ⟨_, hmem, rfl, hrs' ▸ hsame'⟩
      · exact hi.subscribers ref rs hrs h' hh'
    · next hne =>
      rw [if_neg hne]
      exact hi.subscribers ref' rs hrs h' hh'

/-- **One step** keeps tracks apart. -/
theorem isolated_step {s : State H} (a : Action H) (hi : s.Isolated) (ha : KeepsTracksApart s a) :
    (step s a).Isolated := by
  generalize hs' : step s a = s'
  have hsteps := hs' ▸ steps_step s a
  have hpcs : ∀ h pc, s.pc h = pc → s.PcTrack h pc := fun h pc hpc => hpc ▸ hi.pcs h
  cases hsteps with
  | skip => exact hi
  | announced | wrote | ignored =>
    exact hi.same rfl rfl rfl hi.pcs hi.dataStreams hi.processing hi.forwarded
  | accepted hpc hpub => exact (isolated_accepted hi _ ha.2).goto (by simp [State.PcTrack])
  | missed pick hpc =>
    have hmem := hpcs _ _ hpc
    exact State.Isolated.goto hi hmem
  | cached hpc hanew hfind hlookup hid =>
    have hmem := hpcs _ _ hpc
    have htrack := sameTrack_cached hi hmem hlookup hid
    refine State.Isolated.goto ?_ ⟨hmem, htrack⟩
    exact hi.same rfl rfl rfl hi.pcs hi.dataStreams hi.processing hi.forwarded
  | opened draw hpc =>
    have hfresh := ha.1
    simp only [DrawsFresh, hpc] at hfresh
    exact isolated_opened hi (hpcs _ _ hpc) hfresh
  | @added h msg ref hpc =>
    have htrack : s.PcTrack h (.added msg ref) := hpcs h (.fetched msg ref) hpc
    have hg : s.Grows (s.addSubscriber ref h) :=
      grows_of_same (List.Subset.refl _) (sameStreams_addSubscriber s ref h)
    exact (isolated_added hi htrack).goto (htrack.mono hg)
  | recorded | answered | served =>
    refine State.Isolated.goto ?_ trivial
    exact hi.same rfl rfl rfl hi.pcs hi.dataStreams hi.processing hi.forwarded
  | unserved | ended => exact State.Isolated.goto hi trivial
  | unsubscribed => exact hi.thinned (thinned_removeSubscriber s _ _)
  | closed h => exact hi.thinned (thinned_handleClose s h)
  | found hlookup =>
    refine hi.same rfl rfl rfl hi.pcs (fun stream hmem => ?_) hi.processing hi.forwarded
    rw [List.mem_append, List.mem_singleton] at hmem
    obtain hmem | rfl := hmem
    · exact hi.dataStreams stream hmem
    · exact hi.store.incoming _ _ _ hlookup
  | spread hmem hrs =>
    have hmatch := hi.dataStreams _ (List.mem_of_getElem? hmem)
    refine hi.same rfl rfl rfl hi.pcs (fun stream hin => ?_) (fun x hx => ?_) hi.forwarded
    · exact hi.dataStreams stream (List.mem_of_mem_eraseIdx hin)
    · rw [List.mem_append, List.mem_map] at hx
      obtain hx | ⟨h, hh, rfl⟩ := hx
      · exact hi.processing x hx
      · obtain ⟨rs', hrs', hpub, hid⟩ := hmatch
        rw [hrs, Option.some.injEq] at hrs'
        subst hrs'
        exact ⟨_, _, hrs, hpub, hid, hi.subscribers _ _ hrs h hh⟩
  | dropped hmem =>
    exact hi.same rfl rfl rfl hi.pcs hi.dataStreams
      (fun x hx => hi.processing x (List.mem_of_mem_eraseIdx hx)) hi.forwarded
  | forwarded hmem =>
    refine hi.same rfl rfl rfl hi.pcs hi.dataStreams
      (fun x hx => hi.processing x (List.mem_of_mem_eraseIdx hx)) (fun x hx => ?_)
    rw [List.mem_append, List.mem_singleton] at hx
    obtain hx | rfl := hx
    · exact hi.forwarded x hx
    · exact hi.processing _ (List.mem_of_getElem? hmem)

/-- **Isolation**: in every state of every run in which messages with one stream id
are for one track and drawn ids are fresh, data streams have been forwarded only
to sessions that have subscribed to their track. -/
theorem forwards_isolated (acts : List (Action H))
    (hacts : Machine.EachStep step KeepsTracksApart {} acts) :
    ∀ s ∈ Machine.states step ({} : State H) acts, s.ForwardsIsolated := by
  intro s hs
  have hstep : ∀ s, ∀ a ∈ acts, State.Isolated s → KeepsTracksApart s a → (step s a).Isolated :=
    fun s a _ hi ha => isolated_step a hi ha
  exact (Machine.states_of_eachStep acts {} hstep hacts isolated_init s hs).forwardsIsolated

/-- The track `c` of the namespace `a_b`. -/
def trackC : Subscribe := { subscribeID := 1, trackNameSpace := [97, 95, 98], trackName := [99] }

/-- The track `b_c` of the namespace `a`. -/
def trackBC : Subscribe := { subscribeID := 2, trackNameSpace := [97], trackName := [98, 95, 99] }

/-- Session 0 publishes, session 1 subscribes, and a data stream is forwarded. -/
def oneTrack : List (Action (Fin 3)) :=
  [.announce 0 { trackNameSpace := [97, 95, 98] }, .subscribe 1 trackC, .getObjectStream 1 0,
    .sendSubscribe 1 7, .addSubscriber 1, .addStream 1, .dataStream 0 7, .forwardStream 0,
    .processMOQTStream 0 0]

theorem oneTrack_isolated :
    (Machine.run step {} oneTrack).forwarded = [(1, 1, ⟨0, 7, [97, 95, 98, 95, 99], 0⟩)] ∧
      (Machine.run step {} oneTrack).ForwardsIsolated := by
  refine ⟨by decide, forwards_isolated oneTrack ?_ _ (Machine.run_mem_states _ _)⟩
  exact ⟨⟨trivial, trivial⟩, ⟨trivial, nofun⟩, ⟨trivial, trivial⟩, ⟨rfl, trivial⟩,
    ⟨trivial, trivial⟩, ⟨trivial, trivial⟩, ⟨trivial, trivial⟩, ⟨trivial, trivial⟩,
    ⟨trivial, trivial⟩, trivial⟩

/-- Session 2 subscribes to `b_c` of `a` while the relay has a stream for `c` of
`a_b`, and a data stream of that arrives. -/
def twoTracks : List (Action (Fin 3)) :=
  [.announce 0 { trackNameSpace := [97, 95, 98] }, .announce 0 { trackNameSpace := [97] },
    .subscribe 1 trackC, .getObjectStream 1 0, .sendSubscribe 1 7, .addSubscriber 1, .addStream 1,
    .subscribe 2 trackBC, .getObjectStream 2 0, .addSubscriber 2, .addStream 2,
    .dataStream 0 7, .forwardStream 0, .processMOQTStream 0 0]

/-- **Counterexample**: session 2 receives the stream of a track it has not
subscribed to. -/
theorem twoTracks_mixed :
    (Machine.run step {} twoTracks).forwarded = [(2, 2, ⟨0, 7, [97, 95, 98, 95, 99], 0⟩)] ∧
      ¬ (Machine.run step {} twoTracks).ForwardsIsolated := by
  unfold State.ForwardsIsolated State.HasSubscribed
  decide

end MoqQuic.Moqt
