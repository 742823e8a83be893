import MoqQuic.Moqt.Relay.Streams

/-!
# MoqQuic.Moqt.Relay.Book

Where the messages that subscribers have sent are.

An accepted `SUBSCRIBE` is in `HandleSubscribe`, or it has been recorded in
`SubscribedStreams`; either way it ends up on a relay stream with its stream id.
`book_step` keeps this, as long as a session uses each subscribe id and each
stream id once.
-/

namespace MoqQuic.Moqt

open Wire

variable {H : Type}

/-! ## where a message is -/

/-- The message that `HandleSubscribe` is working on. -/
def Pc.message : Pc H → Option Subscribe
  | .accepted msg _ | .missed msg _ | .fetched msg _ | .added msg _ => some msg
  | .idle | .forwarding _ _ _ _ => none

/-- The relay stream that `GetObjectStream` has returned. -/
def Pc.target : Pc H → Option Nat
  | .fetched _ ref | .added _ ref => some ref
  | .idle | .accepted _ _ | .missed _ _ | .forwarding _ _ _ _ => none

/-- The message has this relay stream: `HandleSubscribe` is at it, or it is in
`SubscribedStreams`. -/
def State.Assigned (s : State H) (h : H) (m : Subscribe) (ref : Nat) : Prop :=
  ((s.pc h).message = some m ∧ (s.pc h).target = some ref) ∨
    (s.subscribedStreams h).lookup m.subscribeID = some ref

/-- Every accepted message is in `HandleSubscribe` or in `SubscribedStreams`, on a
relay stream with its stream id, and subscribers of a relay stream have such a
message. -/
structure State.Book (s : State H) : Prop where
  store : s.Store
  ids : ∀ x ∈ s.subscribes, ∀ y ∈ s.subscribes, x.1 = y.1 →
    x.2.subscribeID = y.2.subscribeID → x = y
  keys : ∀ x ∈ s.subscribes, ∀ y ∈ s.subscribes, x.1 = y.1 →
    x.2.getStreamID = y.2.getStreamID → x = y
  known : ∀ h subid ref, (s.subscribedStreams h).lookup subid = some ref →
    ∃ m, (h, m) ∈ s.subscribes ∧ m.subscribeID = subid
  current : ∀ h m, (s.pc h).message = some m →
    (h, m) ∈ s.subscribes ∧ (s.subscribedStreams h).lookup m.subscribeID = none
  located : ∀ h m, (h, m) ∈ s.subscribes →
    (s.pc h).message = some m ∨ ∃ ref, (s.subscribedStreams h).lookup m.subscribeID = some ref
  streams : ∀ h m ref, (h, m) ∈ s.subscribes → s.Assigned h m ref →
    ∃ rs : RelayStream H, s.relayStreams[ref]? = some rs ∧ rs.streamID = m.getStreamID
  added : ∀ h m ref (rs : RelayStream H), s.pc h = .added m ref → s.relayStreams[ref]? = some rs →
    h ∈ rs.subscribers
  subscribers : ∀ (ref : Nat) (rs : RelayStream H), s.relayStreams[ref]? = some rs →
    ∀ h ∈ rs.subscribers, (∃ m, s.pc h = .added m ref) ∨
      ∃ subid, (s.subscribedStreams h).lookup subid = some ref

theorem book_init : ({} : State H).Book :=
  ⟨store_init, nofun, nofun, nofun, nofun, nofun, nofun, nofun, nofun⟩

variable {s : State H} {h : H}

/-- An id in `SubscribedStreams` whose relay stream has the stream id of a message is
the id of that message. -/
theorem State.Book.subid_eq (hb : s.Book) {m : Subscribe} {subid ref : Nat} {rs : RelayStream H}
    (hm : (h, m) ∈ s.subscribes) (hlookup : (s.subscribedStreams h).lookup subid = some ref)
    (hrs : s.relayStreams[ref]? = some rs) (hid : rs.streamID = m.getStreamID) :
    subid = m.subscribeID := by
  obtain ⟨m', hm', rfl⟩ := hb.known h subid ref hlookup
  obtain ⟨rs', hrs', hid'⟩ := hb.streams h m' ref hm' (Or.inr hlookup)
  rw [hrs, Option.some.injEq] at hrs'
  subst hrs'
  have heq := hb.keys (h, m') hm' (h, m) hm rfl (hid'.symm.trans hid)
  rw [Prod.mk.injEq] at heq
  rw [heq.2]

/-- Steps that leave the messages where they are. -/
theorem State.Book.same {s s' : State H} (hb : s.Book) (hsub : s'.subscribes = s.subscribes)
    (hincoming : s'.incomingStreams = s.incomingStreams)
    (hstreams : s'.relayStreams = s.relayStreams)
    (hsubscribed : s'.subscribedStreams = s.subscribedStreams)
    (hmessage : ∀ h, (s'.pc h).message = (s.pc h).message)
    (htarget : ∀ h, (s'.pc h).target = (s.pc h).target)
    (hadded : ∀ h m ref, s'.pc h = .added m ref ↔ s.pc h = .added m ref) : s'.Book := by
  refine ⟨hb.store.congr hincoming (by rw [hstreams]; rfl), ?_, ?_, ?_, ?_, ?_, ?_, ?_, ?_⟩
  · rw [hsub]
    exact hb.ids
  · rw [hsub]
    exact hb.keys
  · simp only [hsub, hsubscribed]
    exact hb.known
  · simp only [hsub, hsubscribed, hmessage]
    exact hb.current
  · simp only [hsub, hsubscribed, hmessage]
    exact hb.located
  · simp only [hsub, hstreams, State.Assigned, hsubscribed, hmessage, htarget]
    exact hb.streams
  · simp only [hadded, hstreams]
    exact hb.added
  · simp only [hadded, hstreams, hsubscribed]
    exact hb.subscribers

theorem book_thinned {s s' : State H} (hb : s.Book) (hpc : s.pc h = .idle) (ht : s.Thinned h s') :
    s'.Book := by
  have hrest := ht.rest
  have hpcs : s'.pc = s.pc := by rw [hrest]
  have hsub : s'.subscribes = s.subscribes := by rw [hrest]
  have hsubscribed : s'.subscribedStreams = s.subscribedStreams := by rw [hrest]
  constructor
  case store => exact hb.store.congr (by rw [hrest]) ht.same
  case ids => exact hsub ▸ hb.ids
  case keys => exact hsub ▸ hb.keys
  case known =>
    rw [hsub, hsubscribed]
    exact hb.known
  case current =>
    rw [hpcs, hsub, hsubscribed]
    exact hb.current
  case located =>
    rw [hpcs, hsub, hsubscribed]
    exact hb.located
  case streams =>
    intro h' m ref hm ha
    simp only [State.Assigned, hpcs, hsubscribed] at ha
    obtain ⟨rs, hrs, hid⟩ := hb.streams h' m ref (hsub ▸ hm) ha
    obtain ⟨rs', hrs', -, hid', -⟩ := ht.same.symm.fields hrs
    exact ⟨rs', hrs', hid'.trans hid⟩
  case added =>
    intro h' m ref rs' hpc' hrs'
    obtain ⟨rs, hrs, -⟩ := ht.same.getElem? hrs'
    rw [hpcs] at hpc'
    have hne : h' ≠ h := by
      rintro rfl
      rw [hpc] at hpc'
      contradiction
    exact ht.others ref rs rs' hrs hrs' h' (hb.added h' m ref rs hpc' hrs) hne
  case subscribers =>
    intro ref rs' hrs' h' hh'
    obtain ⟨rs, hrs, -⟩ := ht.same.getElem? hrs'
    rw [hpcs, hsubscribed]
    exact hb.subscribers ref rs hrs h' (ht.subset ref rs rs' hrs hrs' hh')

variable [DecidableEq H]

/-- A session subscribes to a stream id once and uses each subscribe id once, and it
is not closed in the middle of `HandleSubscribe`. -/
def KeepsBook (s : State H) (a : Action H) : Prop :=
  DrawsFresh s a ∧ match a with
    | .subscribe h msg => ∀ x ∈ s.subscribes, x.1 = h →
        x.2.subscribeID ≠ msg.subscribeID ∧ x.2.getStreamID ≠ msg.getStreamID
    | .close h => s.pc h = .idle
    | _ => True

theorem State.Book.goto (hb : s.Book) {pc : Pc H} (hmessage : pc.message = (s.pc h).message)
    (htarget : pc.target = (s.pc h).target)
    (hadded : ∀ m ref, pc = .added m ref ↔ s.pc h = .added m ref) : (s.goto h pc).Book := by
  refine hb.same rfl rfl rfl rfl (fun h' => ?_) (fun h' => ?_) (fun h' m ref => ?_)
  · rw [pc_goto]
    split
    · next heq => rw [heq, hmessage]
    · rfl
  · rw [pc_goto]
    split
    · next heq => rw [heq, htarget]
    · rfl
  · rw [pc_goto]
    split
    · next heq => rw [heq, hadded]
    · rfl

section

variable (hb : s.Book) {msg : Subscribe}
include hb

theorem book_accepted (publisher : H)
    (hpc : s.pc h = .idle) (hnew : ∀ x ∈ s.subscribes, x.1 = h →
      x.2.subscribeID ≠ msg.subscribeID ∧ x.2.getStreamID ≠ msg.getStreamID) :
    ({ s with subscribes := s.subscribes ++ [(h, msg)] }.goto h (.accepted msg publisher)).Book := by
  -- the new id is in no map, since every id there comes from an accepted message
  have hnone : (s.subscribedStreams h).lookup msg.subscribeID = none := by
    rw [Option.eq_none_iff_forall_ne_some]
    intro ref hlookup
    obtain ⟨m, hm, hid⟩ := hb.known h _ ref hlookup
    exact (hnew (h, m) hm rfl).1 hid
  have hidle : (s.pc h).message = none ∧ (s.pc h).target = none := by
    rw [hpc]
    exact ⟨rfl, rfl⟩
  constructor
  case store => exact hb.store.congr rfl rfl
  case ids =>
    intro x hx y hy
    have := hb.ids x
    grind
  case keys =>
    intro x hx y hy
    have := hb.keys x
    grind
  case known =>
    intro h' subid ref hlookup
    have := hb.known h' subid ref hlookup
    grind
  case current =>
    intro h' m hm
    have := hb.current h' m
    grind [Pc.message]
  case located =>
    intro h' m hm
    have := hb.located h' m
    grind [Pc.message]
  case streams =>
    intro h' m ref hm ha
    have := hb.streams h' m ref
    simp only [State.Assigned] at *
    grind [Pc.message, Pc.target]
  case added =>
    intro h' m ref rs hpc'
    have := hb.added h' m ref rs
    grind
  case subscribers =>
    intro ref rs hrs h' hh'
    have := hb.subscribers ref rs hrs h' hh'
    grind

theorem book_cached {publisher : H} {subid ref : Nat} (hpc : s.pc h = .accepted msg publisher)
    (hlookup : (s.incomingStreams publisher).lookup subid = some ref)
    (hid : s.getStreamID ref = msg.getStreamID) : (s.goto h (.fetched msg ref)).Book := by
  obtain ⟨rs, hrs, -, -⟩ := hb.store.incoming publisher subid ref hlookup
  rw [getStreamID_eq hrs] at hid
  have hold : (s.pc h).message = some msg := by rw [hpc]; rfl
  constructor
  case store => exact hb.store.congr rfl rfl
  case ids => exact hb.ids
  case keys => exact hb.keys
  case known => exact hb.known
  case current =>
    intro h' m hm
    rw [pc_goto] at hm
    have := hb.current h' m
    grind [Pc.message]
  case located =>
    intro h' m hm
    rw [pc_goto]
    have := hb.located h' m hm
    grind [Pc.message]
  case streams =>
    intro h' m ref' hm ha
    have := hb.streams h' m ref' hm
    simp only [State.Assigned, pc_goto] at *
    grind [Pc.message, Pc.target]
  case added =>
    intro h' m ref' rs' hpc'
    rw [pc_goto] at hpc'
    have := hb.added h' m ref' rs'
    grind
  case subscribers =>
    intro ref' rs' hrs' h' hh'
    have := hb.subscribers ref' rs' hrs' h' hh'
    simp only [pc_goto]
    grind

theorem book_opened {publisher : H} {draw : UInt32} (hpc : s.pc h = .missed msg publisher)
    (hfresh : (s.incomingStreams publisher).lookup draw.toNat = none) :
    (s.sendSubscribe h msg publisher draw).Book := by
  have hold : (s.pc h).message = some msg := by rw [hpc]; rfl
  have hmem := hb.current h msg hold
  constructor
  case store => exact store_sendSubscribe hb.store hfresh
  case ids => exact hb.ids
  case keys => exact hb.keys
  case known => exact hb.known
  case current =>
    intro h' m hm
    have := hb.current h' m
    grind [Pc.message]
  case located =>
    intro h' m hm
    have := hb.located h' m hm
    grind [Pc.message]
  case streams =>
    intro h' m ref hm ha
    by_cases hnew : h' = h ∧ m = msg
    · obtain ⟨rfl, rfl⟩ := hnew
      have href : ref = s.relayStreams.length := by
        simp only [State.Assigned] at ha
        grind [Pc.message, Pc.target]
      subst href
      exact ⟨_, getElem?_sendSubscribe_new s h' m publisher draw, rfl⟩
    · have hold' : s.Assigned h' m ref := by
        simp only [State.Assigned] at *
        grind [Pc.message, Pc.target]
      obtain ⟨rs, hrs, hid⟩ := hb.streams h' m ref hm hold'
      exact ⟨rs, getElem?_sendSubscribe_old hrs, hid⟩
  case added =>
    intro h' m ref rs hpc' hrs
    have hne : h' ≠ h := by grind
    have hpc'' : s.pc h' = .added m ref := by grind
    obtain hrs | ⟨rfl, -⟩ := getElem?_sendSubscribe hrs
    · exact hb.added h' m ref rs hpc'' hrs
    · obtain ⟨rs', hrs', -⟩ := hb.streams h' m s.relayStreams.length
        (hb.current h' m (by rw [hpc'']; rfl)).1 (Or.inl (by rw [hpc'']; exact ⟨rfl, rfl⟩))
      simp at hrs'
  case subscribers =>
    intro ref rs hrs h' hh'
    obtain hrs | ⟨-, rfl⟩ := getElem?_sendSubscribe hrs
    · have := hb.subscribers ref rs hrs h' hh'
      grind
    · contradiction

theorem book_added {ref : Nat} (hpc : s.pc h = .fetched msg ref) :
    ((s.addSubscriber ref h).goto h (.added msg ref)).Book := by
  have hsame := sameStreams_addSubscriber s ref h
  have hold : (s.pc h).message = some msg ∧ (s.pc h).target = some ref := by
    rw [hpc]
    exact ⟨rfl, rfl⟩
  constructor
  case store => exact hb.store.congr rfl hsame
  case ids => exact hb.ids
  case keys => exact hb.keys
  case known => exact hb.known
  case current =>
    intro h' m hm
    have := hb.current h' m
    grind [Pc.message]
  case located =>
    intro h' m hm
    have := hb.located h' m hm
    grind [Pc.message]
  case streams =>
    intro h' m ref' hm ha
    have hold' : s.Assigned h' m ref' := by
      simp only [State.Assigned] at *
      grind [Pc.message, Pc.target]
    obtain ⟨rs, hrs, hid⟩ := hb.streams h' m ref' hm hold'
    refine ⟨_, getElem?_addSubscriber hrs, ?_⟩
    split
    · exact hid
    · exact hid
  case added =>
    intro h' m ref' rs' hpc' hrs'
    obtain ⟨rs, hrs, rfl⟩ := getElem?_addSubscriber_of hrs'
    have := hb.added h' m ref' rs
    grind [RelayStream.addSubscriber]
  case subscribers =>
    intro ref' rs' hrs' h' hh'
    obtain ⟨rs, hrs, rfl⟩ := getElem?_addSubscriber_of hrs'
    have := hb.subscribers ref' rs hrs h'
    grind [RelayStream.addSubscriber]

theorem book_recorded {ref : Nat} (hpc : s.pc h = .added msg ref) :
    (s.addStream h msg ref).Book := by
  have hold : (s.pc h).message = some msg ∧ (s.pc h).target = some ref := by
    rw [hpc]
    exact ⟨rfl, rfl⟩
  have hmem := hb.current h msg hold.1
  constructor
  case store => exact hb.store.congr rfl rfl
  case ids => exact hb.ids
  case keys => exact hb.keys
  case known =>
    intro h' subid ref' hlookup
    have := hb.known h' subid ref'
    grind
  case current =>
    intro h' m hm
    have := hb.current h' m
    grind [Pc.message]
  case located =>
    intro h' m hm
    have := hb.located h' m hm
    grind [Pc.message]
  case streams =>
    intro h' m ref' hm ha
    have hids := hb.ids (h, msg) hmem.1 (h', m) hm
    have hold' : s.Assigned h' m ref' := by
      simp only [State.Assigned] at *
      grind [Pc.message, Pc.target]
    exact hb.streams h' m ref' hm hold'
  case added =>
    intro h' m ref' rs' hpc'
    have := hb.added h' m ref' rs'
    grind
  case subscribers =>
    intro ref' rs' hrs' h' hh'
    obtain ⟨m, hpc'⟩ | ⟨subid, hlookup⟩ := hb.subscribers ref' rs' hrs' h' hh'
    · by_cases hh : h' = h
      · subst hh
        rw [hpc, Pc.added.injEq] at hpc'
        exact Or.inr ⟨msg.subscribeID, by simp [hpc'.2]⟩
      · exact Or.inl ⟨m, by simp [hh, hpc']⟩
    · have hne : ¬ (h' = h ∧ subid = msg.subscribeID) := by
        rintro ⟨rfl, rfl⟩
        rw [hmem.2] at hlookup
        contradiction
      exact Or.inr ⟨subid, by simp [hne, hlookup]⟩

end

/-- **One step** keeps the book. -/
theorem book_step (a : Action H) (hb : s.Book) (ha : KeepsBook s a) : (step s a).Book := by
  generalize hs' : step s a = s'
  have hsteps := hs' ▸ steps_step s a
  cases hsteps with
  | skip => exact hb
  | announced | wrote | ignored | found | spread | dropped | forwarded =>
    exact hb.same rfl rfl rfl rfl (fun _ => rfl) (fun _ => rfl) (fun _ _ _ => Iff.rfl)
  | accepted hpc hpub => exact book_accepted hb _ hpc ha.2
  | missed pick hpc => exact hb.goto (by rw [hpc]; rfl) (by rw [hpc]; rfl) (by simp [hpc])
  | cached hpc hanew hfind hlookup hid =>
    have hb' := book_cached hb hpc hlookup hid
    exact hb'.same rfl rfl rfl rfl (fun _ => rfl) (fun _ => rfl) (fun _ _ _ => Iff.rfl)
  | opened draw hpc =>
    have hfresh := ha.1
    simp only [DrawsFresh, hpc] at hfresh
    exact book_opened hb hpc hfresh
  | added hpc => exact book_added hb hpc
  | recorded hpc => exact book_recorded hb hpc
  | answered hpc | served hpc =>
    refine State.Book.goto ?_ ?_ ?_ ?_
    · exact hb.same rfl rfl rfl rfl (fun _ => rfl) (fun _ => rfl) (fun _ _ _ => Iff.rfl)
    · simp [hpc, Pc.message]
    · simp [hpc, Pc.target]
    · simp [hpc]
  | unserved hpc | ended hpc =>
    exact hb.goto (by simp [hpc, Pc.message]) (by simp [hpc, Pc.target]) (by simp [hpc])
  | unsubscribed hpc hlookup => exact book_thinned hb hpc (thinned_removeSubscriber s _ _)
  | closed h => exact book_thinned hb ha.2 (thinned_handleClose s h)

end MoqQuic.Moqt
