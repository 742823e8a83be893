import MoqQuic.Moqt.Relay.Book

/-!
# MoqQuic.Moqt.Relay.Phase

Which relay streams wait for their publisher.

A relay stream is settled when its publisher has answered and the answer has been
forwarded.  `State.Phase` says that an answer is forwarded once, when all
subscribers of the relay stream are registered, and that subscribers stay until
then.  The code does not see to this: the upstream `SUBSCRIBE` is written before
the subscriber is registered, and a relay stream serves new subscribers before it
is settled.  `KeepsPhase` is the condition on the single steps.
-/

namespace MoqQuic.Moqt

open Wire

variable {H : Type}

/-! ## settled relay streams -/

/-- A session is in `HandleSubscribe` with this relay stream. -/
def State.Registering (s : State H) (ref : Nat) : Prop := ∃ h, (s.pc h).target = some ref

/-- The publisher has answered for the relay stream, and the answer has been
forwarded. -/
def State.Settled (s : State H) (ref : Nat) : Prop :=
  ∀ rs : RelayStream H, s.relayStreams[ref]? = some rs →
    (rs.publisher, rs.subID) ∉ s.unanswered ∧
      ∀ msg due served, s.pc rs.publisher ≠ .forwarding ref msg due served

/-- An answer is forwarded once, by the publisher's goroutine, when all subscribers of
the relay stream are registered; and subscribers stay until then. -/
structure State.Phase (s : State H) : Prop where
  nodup : s.unanswered.Nodup
  opened : ∀ x ∈ s.unanswered, ∃ ref, (s.incomingStreams x.1).lookup x.2 = some ref
  forwarding : ∀ publisher ref msg due served, s.pc publisher = .forwarding ref msg due served →
    ∃ rs : RelayStream H, s.relayStreams[ref]? = some rs ∧ rs.publisher = publisher ∧
      (publisher, rs.subID) ∉ s.unanswered ∧ rs.subscribers ⊆ due ∧ ¬ s.Registering ref
  joined : ∀ h subid ref (rs : RelayStream H), (s.subscribedStreams h).lookup subid = some ref →
    s.relayStreams[ref]? = some rs → ¬ s.Settled ref → h ∈ rs.subscribers

theorem phase_init : ({} : State H).Phase :=
  ⟨List.nodup_nil, nofun, nofun, nofun⟩

variable {s : State H} {ref : Nat} {rs : RelayStream H}

theorem State.Settled.same {s s' : State H} (hs : s.Settled ref)
    (hunanswered : s'.unanswered ⊆ s.unanswered)
    (hsame : SameStreams s.relayStreams s'.relayStreams)
    (hforwarding : ∀ h msg due served, s'.pc h = .forwarding ref msg due served →
      ∃ due' served', s.pc h = .forwarding ref msg due' served') : s'.Settled ref := by
  intro rs' hrs'
  obtain ⟨rs, hrs, hid, -, hpub, -⟩ := hsame.fields hrs'
  obtain ⟨hun, hfwd⟩ := hs rs hrs
  rw [← hpub, ← hid]
  refine ⟨fun hmem => hun (hunanswered hmem), fun msg due served hpc => ?_⟩
  obtain ⟨due', served', hpc'⟩ := hforwarding _ msg due served hpc
  exact hfwd msg due' served' hpc'

/-- Steps that open no relay stream and begin no forwarding.  A relay stream that is
forwarded gets no subscribers, one that is taken up is settled or taken up already,
and a session with an id for a relay stream that waits is a subscriber of it. -/
theorem State.Phase.frame {s s' : State H} (hp : s.Phase)
    (hunanswered : s'.unanswered = s.unanswered)
    (hincoming : s'.incomingStreams = s.incomingStreams)
    (hsame : SameStreams s.relayStreams s'.relayStreams)
    (hforwarding : ∀ h ref msg due served, s'.pc h = .forwarding ref msg due served →
      ∃ served', s.pc h = .forwarding ref msg due served')
    (hkept : ∀ h ref msg due served (rs rs' : RelayStream H),
      s.pc h = .forwarding ref msg due served → s.relayStreams[ref]? = some rs →
        s'.relayStreams[ref]? = some rs' → rs'.subscribers ⊆ rs.subscribers)
    (hregistering : ∀ ref, s'.Registering ref → s.Registering ref ∨ s.Settled ref)
    (hjoined : ∀ h subid ref (rs' : RelayStream H),
      (s'.subscribedStreams h).lookup subid = some ref → s'.relayStreams[ref]? = some rs' →
        ¬ s.Settled ref → h ∈ rs'.subscribers ∨ (s.subscribedStreams h).lookup subid = some ref ∧
          ∀ rs : RelayStream H, s.relayStreams[ref]? = some rs → h ∈ rs.subscribers →
            h ∈ rs'.subscribers) : s'.Phase := by
  constructor
  case nodup => exact hunanswered ▸ hp.nodup
  case opened =>
    rw [hunanswered, hincoming]
    exact hp.opened
  case forwarding =>
    intro publisher ref msg due served hpc
    obtain ⟨served', hpc'⟩ := hforwarding publisher ref msg due served hpc
    obtain ⟨rs, hrs, hpub, hun, hdue, hreg⟩ := hp.forwarding publisher ref msg due served' hpc'
    obtain ⟨rs', hrs', hid, -, hpub', -⟩ := hsame.symm.fields hrs
    have hsub := hkept publisher ref msg due served' rs rs' hpc' hrs hrs'
    refine ⟨rs', hrs', hpub'.trans hpub, ?_, List.Subset.trans hsub hdue, fun hreg' => ?_⟩
    · rw [hunanswered, hid]
      exact hun
    · obtain hreg' | hset := hregistering ref hreg'
      · exact hreg hreg'
      · exact (hset rs hrs).2 msg due served' (hpub ▸ hpc')
  case joined =>
    intro h subid ref rs' hlookup hrs' hnot
    have hnot' : ¬ s.Settled ref := by
      intro hset
      refine hnot (hset.same (hunanswered ▸ List.Subset.refl _) hsame fun h' msg due served hpc => ?_)
      obtain ⟨served', hpc'⟩ := hforwarding h' ref msg due served hpc
      exact ⟨due, served', hpc'⟩
    obtain hin | ⟨hlookup', hmono⟩ := hjoined h subid ref rs' hlookup hrs' hnot'
    · exact hin
    · obtain ⟨rs, hrs, -⟩ := hsame.getElem? hrs'
      exact hmono rs hrs (hp.joined h subid ref rs hlookup' hrs hnot')

/-- The same for steps that leave relay streams and ids alone. -/
theorem State.Phase.same {s s' : State H} (hp : s.Phase) (hunanswered : s'.unanswered = s.unanswered)
    (hincoming : s'.incomingStreams = s.incomingStreams)
    (hstreams : s'.relayStreams = s.relayStreams)
    (hsubscribed : s'.subscribedStreams = s.subscribedStreams)
    (hforwarding : ∀ h ref msg due served, s'.pc h = .forwarding ref msg due served →
      ∃ served', s.pc h = .forwarding ref msg due served')
    (hregistering : ∀ ref, s'.Registering ref → s.Registering ref ∨ s.Settled ref) : s'.Phase := by
  refine hp.frame hunanswered hincoming (by rw [hstreams]; rfl) hforwarding ?_ hregistering ?_
  · intro h ref msg due served rs rs' _ hrs hrs'
    rw [hstreams, hrs, Option.some.injEq] at hrs'
    exact hrs' ▸ List.Subset.refl _
  · intro h subid ref rs' hlookup hrs' _
    rw [hsubscribed] at hlookup
    refine Or.inr ⟨hlookup, fun rs hrs hin => ?_⟩
    rw [hstreams, hrs, Option.some.injEq] at hrs'
    exact hrs' ▸ hin

variable {publisher : H} {msg : SubscribeOk}

/-- The relay stream of an answer. -/
theorem State.Store.answered (hs : s.Store)
    (hlookup : (s.incomingStreams publisher).lookup msg.subscribeID = some ref)
    (hrs : s.relayStreams[ref]? = some rs) :
    rs.publisher = publisher ∧ rs.subID = msg.subscribeID ∧
      ∀ (ref' : Nat) (rs' : RelayStream H), s.relayStreams[ref']? = some rs' → ref' ≠ ref →
        (rs'.publisher, rs'.subID) ≠ (publisher, msg.subscribeID) := by
  obtain ⟨rs'', hrs'', hpub, hid⟩ := hs.incoming publisher _ ref hlookup
  rw [hrs, Option.some.injEq] at hrs''
  subst hrs''
  refine ⟨hpub, hid, fun ref' rs' hrs' hne heq => hne ?_⟩
  rw [Prod.mk.injEq] at heq
  exact hs.ref_unique hrs' hrs (heq.1.trans hpub.symm) (heq.2.trans hid.symm)

/-- A `SUBSCRIBE` that waits has a relay stream. -/
theorem State.Phase.waiting_stream (hp : s.Phase) (hs : s.Store) {subid : Nat}
    (hwaits : (publisher, subid) ∈ s.unanswered) :
    ∃ (ref : Nat) (rs : RelayStream H), (s.incomingStreams publisher).lookup subid = some ref ∧
      s.relayStreams[ref]? = some rs := by
  obtain ⟨ref, hlookup⟩ := hp.opened _ hwaits
  obtain ⟨rs, hrs, -⟩ := hs.incoming publisher subid ref hlookup
  exact ⟨ref, rs, hlookup, hrs⟩

/-- What holds of a relay stream while it is forwarded. -/
theorem State.Phase.forwarding_stream (hp : s.Phase)
    {due served : List H} (hpc : s.pc publisher = .forwarding ref msg due served)
    (hrs : s.relayStreams[ref]? = some rs) :
    rs.publisher = publisher ∧ (publisher, rs.subID) ∉ s.unanswered ∧ rs.subscribers ⊆ due ∧
      ¬ s.Registering ref := by
  obtain ⟨rs', hrs', hfacts⟩ := hp.forwarding _ _ _ _ _ hpc
  rw [hrs, Option.some.injEq] at hrs'
  exact hrs' ▸ hfacts

/-- An id that is not in use at the publisher is that of no relay stream. -/
theorem State.Store.ne_fresh (hs : s.Store) (hrs : s.relayStreams[ref]? = some rs)
    {subid : Nat} (hfresh : (s.incomingStreams publisher).lookup subid = none) :
    (rs.publisher, rs.subID) ≠ (publisher, subid) := by
  intro heq
  rw [Prod.mk.injEq] at heq
  have hlookup := hs.registered ref rs hrs
  rw [heq.1, heq.2, hfresh] at hlookup
  contradiction

variable [DecidableEq H]

/-- The publisher answers only a `SUBSCRIBE` that waits for an answer. -/
def AnswersOnce (s : State H) : Action H → Prop
  | .subscribeOk publisher msg => (publisher, msg.subscribeID) ∈ s.unanswered
  | _ => True

/-- The relay serves a subscription from a relay stream whose publisher has answered,
handles an answer when no session is in the middle of `HandleSubscribe` with the
relay stream, and removes subscribers after the answer. -/
def KeepsPhase (s : State H) : Action H → Prop
  | .getObjectStream h pick => ∀ msg publisher ref, s.pc h = .accepted msg publisher →
      fetchesAnew msg = false →
      (s.incomingStreams publisher).streamIDGetStream s.getStreamID msg.getStreamID pick = some ref →
      s.Settled ref
  | .subscribeOk publisher msg => ∀ ref,
      (s.incomingStreams publisher).lookup msg.subscribeID = some ref → ¬ s.Registering ref
  | .unsubscribe h msg => ∀ ref,
      (s.subscribedStreams h).lookup msg.subscriptionID = some ref → s.Settled ref
  | .close h => ∀ subid ref, (s.subscribedStreams h).lookup subid = some ref → s.Settled ref
  | _ => True

variable {h : H}

/-- A change of program counter that takes up at most a settled relay stream and begins
no forwarding. -/
theorem State.Phase.goto (hp : s.Phase) {pc : Pc H}
    (htarget : ∀ ref, pc.target = some ref → s.Settled ref)
    (hforwarding : ∀ ref msg due served, pc = .forwarding ref msg due served →
      ∃ served', s.pc h = .forwarding ref msg due served') : (s.goto h pc).Phase := by
  refine hp.same rfl rfl rfl rfl (fun h' ref msg due served hpc => ?_) fun ref hreg => ?_
  · rw [pc_goto] at hpc
    split at hpc
    · next heq => exact heq ▸ hforwarding ref msg due served hpc
    · exact ⟨served, hpc⟩
  · obtain ⟨h', hh'⟩ := hreg
    rw [pc_goto] at hh'
    split at hh'
    · exact Or.inr (htarget ref hh')
    · exact Or.inl ⟨h', hh'⟩

theorem phase_opened (hb : s.Book) (hp : s.Phase) (h : H) (msg : Subscribe)
    {draw : UInt32} (hfresh : (s.incomingStreams publisher).lookup draw.toNat = none) :
    (s.sendSubscribe h msg publisher draw).Phase := by
  have hnot : (publisher, draw.toNat) ∉ s.unanswered := by
    intro hmem
    obtain ⟨ref, hlookup⟩ := hp.opened _ hmem
    rw [hfresh] at hlookup
    contradiction
  constructor
  case nodup =>
    rw [unanswered_sendSubscribe, List.nodup_append]
    exact ⟨hp.nodup, List.nodup_singleton _, by grind⟩
  case opened =>
    intro x hx
    rw [unanswered_sendSubscribe, List.mem_append, List.mem_singleton] at hx
    obtain hx | rfl := hx
    · obtain ⟨ref, hlookup⟩ := hp.opened x hx
      refine ⟨ref, ?_⟩
      rw [incoming_sendSubscribe, if_neg]
      · exact hlookup
      · rintro ⟨hpub, hid⟩
        rw [hpub, hid, hfresh] at hlookup
        contradiction
    · exact ⟨_, by rw [incoming_sendSubscribe, if_pos ⟨rfl, rfl⟩]⟩
  case forwarding =>
    intro publisher' ref msg' due served hpc'
    have hpc'' : s.pc publisher' = .forwarding ref msg' due served := by grind
    obtain ⟨rs, hrs, hpub, hun, hdue, hreg⟩ := hp.forwarding _ _ _ _ _ hpc''
    refine ⟨rs, getElem?_sendSubscribe_old hrs, hpub, ?_, hdue, ?_⟩
    · have hne := hb.store.ne_fresh hrs hfresh
      rw [hpub] at hne
      simp [hun, hne]
    · rintro ⟨h', hh'⟩
      rw [pc_sendSubscribe] at hh'
      split at hh'
      · rw [Pc.target, Option.some.injEq] at hh'
        have hlt := (List.getElem?_eq_some_iff.mp hrs).1
        omega
      · exact hreg ⟨h', hh'⟩
  case joined =>
    intro h' subid ref rs hlookup hrs hnot'
    obtain hrs | ⟨rfl, rfl⟩ := getElem?_sendSubscribe hrs
    · refine hp.joined h' subid ref rs hlookup hrs fun hs => hnot' ?_
      intro rs' hrs'
      rw [getElem?_sendSubscribe_old hrs, Option.some.injEq] at hrs'
      subst hrs'
      have hne := hb.store.ne_fresh hrs hfresh
      obtain ⟨hun, hfwd⟩ := hs rs hrs
      refine ⟨by simp [hun, hne], fun msg' due served hpc' => ?_⟩
      exact hfwd msg' due served (by grind)
    · -- no recorded message has the new relay stream
      obtain ⟨m, hm, rfl⟩ := hb.known h' subid _ hlookup
      obtain ⟨rs', hrs', -⟩ := hb.streams h' m _ hm (Or.inr hlookup)
      simp at hrs'

theorem phase_added (hp : s.Phase) {msg : Subscribe} (hpc : s.pc h = .fetched msg ref) :
    ((s.addSubscriber ref h).goto h (.added msg ref)).Phase := by
  have hreg : s.Registering ref := ⟨h, by rw [hpc]; rfl⟩
  refine hp.frame rfl rfl (sameStreams_addSubscriber s ref h) ?_ ?_ ?_ ?_
  · intro h' ref' msg' due served hpc'
    exact ⟨served, by grind⟩
  · -- a relay stream that is forwarded is not the one that is taken up
    intro publisher ref' msg' due served rs rs' hpc' hrs hrs'
    obtain ⟨-, -, -, -, -, hreg'⟩ := hp.forwarding _ _ _ _ _ hpc'
    have hne : ref ≠ ref' := by
      rintro rfl
      exact hreg' hreg
    rw [relayStreams_goto, getElem?_addSubscriber hrs, if_neg hne, Option.some.injEq] at hrs'
    exact hrs' ▸ List.Subset.refl _
  · rintro ref' ⟨h', hh'⟩
    exact Or.inl ⟨h', by grind [Pc.target]⟩
  · intro h' subid ref' rs' hlookup hrs' _
    refine Or.inr ⟨hlookup, fun rs hrs hin => ?_⟩
    rw [relayStreams_goto, getElem?_addSubscriber hrs, Option.some.injEq] at hrs'
    grind [RelayStream.addSubscriber]

theorem phase_recorded (hb : s.Book) (hp : s.Phase) {msg : Subscribe}
    (hpc : s.pc h = .added msg ref) : (s.addStream h msg ref).Phase := by
  refine hp.frame rfl rfl rfl ?_ ?_ ?_ ?_
  · intro h' ref' msg' due served hpc'
    exact ⟨served, by grind⟩
  · intro publisher ref' msg' due served rs rs' _ hrs hrs'
    rw [relayStreams_addStream, hrs, Option.some.injEq] at hrs'
    exact hrs' ▸ List.Subset.refl _
  · rintro ref' ⟨h', hh'⟩
    exact Or.inl ⟨h', by grind [Pc.target]⟩
  · intro h' subid ref' rs' hlookup hrs' _
    rw [relayStreams_addStream] at hrs'
    rw [lookup_subscribed_addStream] at hlookup
    split at hlookup
    · next heq =>
      obtain ⟨rfl, rfl⟩ := heq
      cases hlookup
      exact Or.inl (hb.added h' msg ref rs' hpc hrs')
    · refine Or.inr ⟨hlookup, fun rs hrs hin => ?_⟩
      rw [hrs, Option.some.injEq] at hrs'
      exact hrs' ▸ hin

theorem phase_answered (hb : s.Book) (hp : s.Phase) (hpc : s.pc publisher = .idle)
    (hlookup : (s.incomingStreams publisher).lookup msg.subscribeID = some ref)
    (hrs : s.relayStreams[ref]? = some rs) (hwaits : (publisher, msg.subscribeID) ∈ s.unanswered)
    (hreg : ¬ s.Registering ref) :
    ({ s with unanswered := s.unanswered.erase (publisher, msg.subscribeID) }.goto publisher
      (.forwarding ref msg rs.subscribers [])).Phase := by
  obtain ⟨hpub, hid, hother⟩ := hb.store.answered hlookup hrs
  constructor
  case nodup => exact hp.nodup.erase _
  case opened => exact fun x hx => hp.opened x (List.mem_of_mem_erase hx)
  case forwarding =>
    intro publisher' ref' msg' due served hpc'
    rw [pc_goto] at hpc'
    split at hpc'
    · next heq =>
      subst heq
      cases hpc'
      refine ⟨rs, hrs, hpub, ?_, List.Subset.refl _, ?_⟩
      · rw [hid]
        exact hp.nodup.not_mem_erase
      · rintro ⟨h, hh⟩
        exact hreg ⟨h, by grind [Pc.target]⟩
    · obtain ⟨rs', hrs', hpub', hun, hdue, hreg'⟩ := hp.forwarding _ _ _ _ _ hpc'
      refine ⟨rs', hrs', hpub', fun hmem => hun (List.mem_of_mem_erase hmem), hdue, ?_⟩
      rintro ⟨h, hh⟩
      exact hreg' ⟨h, by grind [Pc.target]⟩
  case joined =>
    intro h subid ref' rs' hlookup' hrs' hnot
    refine hp.joined h subid ref' rs' hlookup' hrs' fun hs => hnot ?_
    by_cases heq : ref' = ref
    · subst heq
      have hun := (hs rs hrs).1
      rw [hpub, hid] at hun
      exact absurd hwaits hun
    · refine hs.same List.erase_subset rfl fun h' msg' due served hpc' => ?_
      exact ⟨due, served, by grind⟩

/-- Removing subscribers of settled relay streams. -/
theorem phase_thinned {s s' : State H} (hp : s.Phase) (ht : s.Thinned h s')
    (hkeep : ∀ subid ref (rs rs' : RelayStream H), (s.subscribedStreams h).lookup subid = some ref →
      s.relayStreams[ref]? = some rs → s'.relayStreams[ref]? = some rs' → ¬ s.Settled ref →
        h ∈ rs.subscribers → h ∈ rs'.subscribers) : s'.Phase := by
  have hrest := ht.rest
  have hpcs : s'.pc = s.pc := by rw [hrest]
  refine hp.frame (by rw [hrest]) (by rw [hrest]) ht.same ?_ ?_ ?_ ?_
  · intro h' ref msg due served hpc
    exact ⟨served, hpcs ▸ hpc⟩
  · intro h' ref msg due served rs rs' _ hrs hrs'
    exact ht.subset ref rs rs' hrs hrs'
  · rintro ref ⟨h', hh'⟩
    exact Or.inl ⟨h', hpcs ▸ hh'⟩
  · intro h' subid ref rs' hlookup hrs' hnot
    rw [show s'.subscribedStreams = s.subscribedStreams by rw [hrest]] at hlookup
    refine Or.inr ⟨hlookup, fun rs hrs hin => ?_⟩
    by_cases hh : h' = h
    · subst hh
      exact hkeep subid ref rs rs' hlookup hrs hrs' hnot hin
    · exact ht.others ref rs rs' hrs hrs' h' hin hh

/-- The conditions on a step under which messages are registered before their answer
comes. -/
def Orderly (s : State H) (a : Action H) : Prop := KeepsBook s a ∧ KeepsPhase s a

/-- **One step** keeps the phases. -/
theorem phase_step (a : Action H) (hb : s.Book) (hp : s.Phase) (hans : AnswersOnce s a)
    (ha : Orderly s a) : (step s a).Phase := by
  generalize hs' : step s a = s'
  have hsteps := hs' ▸ steps_step s a
  have hsame : ∀ s' : State H, s'.unanswered = s.unanswered → s'.incomingStreams = s.incomingStreams →
      s'.relayStreams = s.relayStreams → s'.subscribedStreams = s.subscribedStreams →
      s'.pc = s.pc → s'.Phase := by
    intro s' hun hinc hstr hsub hpc
    refine hp.same hun hinc hstr hsub (fun h ref msg due served hh => ⟨served, hpc ▸ hh⟩) ?_
    rintro ref ⟨h, hh⟩
    exact Or.inl ⟨h, hpc ▸ hh⟩
  cases hsteps with
  | skip => exact hp
  | announced | wrote | found | spread | dropped | forwarded => exact hsame _ rfl rfl rfl rfl rfl
  | accepted hpc hpub =>
    refine State.Phase.goto ?_ (by simp [Pc.target]) (by simp)
    exact hsame _ rfl rfl rfl rfl rfl
  | missed | ended => exact hp.goto (by simp [Pc.target]) (by simp)
  | cached hpc hanew hfind hlookup hid =>
    have hset : s.Settled _ := ha.2 _ _ _ hpc hanew hfind
    refine State.Phase.goto ?_ (fun ref htarget => ?_) (by simp)
    · exact hsame _ rfl rfl rfl rfl rfl
    · cases htarget
      exact hset
  | opened draw hpc =>
    have hfresh := ha.1.1
    simp only [DrawsFresh, hpc] at hfresh
    exact phase_opened hb hp _ _ hfresh
  | added hpc => exact phase_added hp hpc
  | recorded hpc => exact phase_recorded hb hp hpc
  | ignored hpc hnone =>
    obtain ⟨ref, rs, hlookup, hrs⟩ := hp.waiting_stream hb.store hans
    exact absurd hrs (hnone ref rs hlookup)
  | answered hpc hlookup hrs =>
    exact phase_answered hb hp hpc hlookup hrs hans (ha.2 _ hlookup)
  | served hpc =>
    refine State.Phase.goto ?_ (by simp [Pc.target]) fun ref msg due served heq => ?_
    · exact hsame _ rfl rfl rfl rfl rfl
    · cases heq
      exact ⟨_, hpc⟩
  | unserved hpc =>
    refine hp.goto (by simp [Pc.target]) fun ref msg due served heq => ?_
    cases heq
    exact ⟨_, hpc⟩
  | @unsubscribed h msg ref hpc hlookup =>
    refine phase_thinned hp (thinned_removeSubscriber s _ _) ?_
    intro subid ref' rs rs' hlookup' hrs hrs' hnot hin
    rw [getElem?_removeSubscriber hrs, Option.some.injEq] at hrs'
    by_cases heq : ref = ref'
    · exact absurd (heq ▸ ha.2 _ hlookup) hnot
    · rw [if_neg heq] at hrs'
      exact hrs' ▸ hin
  | closed h =>
    refine phase_thinned hp (thinned_handleClose s h) ?_
    intro subid ref rs rs' hlookup hrs hrs' hnot
    exact absurd (ha.2 subid ref hlookup) hnot

end MoqQuic.Moqt
