import MoqQuic.Moqt.Relay.Phase

/-!
# MoqQuic.Moqt.Relay.Answers

How often a subscription is answered.

The relay answers a `SUBSCRIBE` in one of two ways.  If it has a relay stream for
the stream id, it writes a `SUBSCRIBE_OK` itself; if not, it opens one upstream,
and forwards the publisher's `SUBSCRIBE_OK` to all subscribers of the relay
stream, each under the first id it finds for the stream id.  The two overlap, and
the forwarding can run before the subscriber is registered, so a subscription can
be answered twice or not at all.

`answered_once` gives the conditions on the single steps under which every
subscription is answered exactly once.  On top of where the messages are
(`State.Book`) and which relay streams wait for their publisher (`State.Phase`),
its invariant `State.Count` says how many answers each message has had.
-/

namespace MoqQuic.Moqt

open Wire

variable {H : Type}

/-! ## who has had the answer -/

/-- The publisher has answered for the relay stream, and the answer has been
forwarded to the subscriber. -/
def State.Answered (s : State H) (h : H) (ref : Nat) : Prop :=
  ∀ rs : RelayStream H, s.relayStreams[ref]? = some rs →
    (rs.publisher, rs.subID) ∉ s.unanswered ∧
      ∀ msg due served, s.pc rs.publisher = .forwarding ref msg due served → h ∈ served

variable {s : State H} {ref : Nat} {rs : RelayStream H} {h : H} {msg : SubscribeOk}
  {publisher : H} {due served : List H} {m : Subscribe}

theorem State.Settled.answered (hs : s.Settled ref) (h : H) : s.Answered h ref := by
  intro rs hrs
  obtain ⟨hun, hfwd⟩ := hs rs hrs
  exact ⟨hun, fun msg due served hpc => absurd hpc (hfwd msg due served)⟩

theorem answered_iff (hrs : s.relayStreams[ref]? = some rs) (h : H) :
    s.Answered h ref ↔ (rs.publisher, rs.subID) ∉ s.unanswered ∧
      ∀ msg due served, s.pc rs.publisher = .forwarding ref msg due served → h ∈ served := by
  constructor
  · intro ha
    exact ha rs hrs
  · intro ha rs' hrs'
    rw [hrs, Option.some.injEq] at hrs'
    exact hrs' ▸ ha

/-- While a relay stream is forwarded, its answer has gone to those it has served. -/
theorem answered_forwarding (hrs : s.relayStreams[ref]? = some rs)
    (hun : (rs.publisher, rs.subID) ∉ s.unanswered)
    (hpc : s.pc rs.publisher = .forwarding ref msg due served) (h : H) :
    s.Answered h ref ↔ h ∈ served := by
  rw [answered_iff hrs, hpc]
  simp only [Pc.forwarding.injEq, hun, not_false_eq_true, true_and]
  constructor
  · intro hserved
    exact hserved msg due served ⟨rfl, rfl, rfl⟩
  · rintro hmem _ _ _ ⟨-, -, rfl⟩
    exact hmem

/-- Steps that change neither the relay stream nor its phase. -/
theorem answered_congr {s s' : State H} {rs rs' : RelayStream H}
    (hrs : s.relayStreams[ref]? = some rs) (hrs' : s'.relayStreams[ref]? = some rs')
    (hfixed : rs'.fixed = rs.fixed)
    (hunanswered : (rs.publisher, rs.subID) ∈ s'.unanswered ↔
      (rs.publisher, rs.subID) ∈ s.unanswered)
    (hforwarding : ∀ h msg due served, s'.pc h = .forwarding ref msg due served ↔
      s.pc h = .forwarding ref msg due served) (h : H) :
    s'.Answered h ref ↔ s.Answered h ref := by
  simp only [RelayStream.fixed, RelayStream.mk.injEq] at hfixed
  rw [answered_iff hrs, answered_iff hrs', hfixed.1, hfixed.2.2.1, hunanswered]
  simp only [hforwarding]

/-- A message has one relay stream. -/
theorem State.Book.assigned_unique (hb : s.Book) {ref ref' : Nat} (ha : s.Assigned h m ref)
    (ha' : s.Assigned h m ref') : ref = ref' := by
  obtain ⟨hm, ht⟩ | hl := ha
  · obtain ⟨-, ht'⟩ | hl' := ha'
    · rw [ht, Option.some.injEq] at ht'
      exact ht'
    · rw [(hb.current h m hm).2] at hl'
      contradiction
  · obtain ⟨hm', -⟩ | hl' := ha'
    · rw [(hb.current h m hm').2] at hl
      contradiction
    · rw [hl, Option.some.injEq] at hl'
      exact hl'

/-- The messages of a session on one relay stream are one message. -/
theorem State.Book.message_unique (hb : s.Book) {m m' : Subscribe} (hm : (h, m) ∈ s.subscribes)
    (hm' : (h, m') ∈ s.subscribes) (ha : s.Assigned h m ref) (ha' : s.Assigned h m' ref) :
    m = m' := by
  obtain ⟨rs, hrs, hid⟩ := hb.streams h m ref hm ha
  obtain ⟨rs', hrs', hid'⟩ := hb.streams h m' ref hm' ha'
  rw [hrs, Option.some.injEq] at hrs'
  have heq := hb.keys (h, m) hm (h, m') hm' rfl (by rw [← hid, ← hid', hrs'])
  rw [Prod.mk.injEq] at heq
  exact heq.2

/-- While a relay stream is forwarded, its subscribers have a message on it. -/
theorem State.Book.subscriber_message (hb : s.Book) (hrs : s.relayStreams[ref]? = some rs)
    (hreg : ¬ s.Registering ref) (hsub : h ∈ rs.subscribers) :
    ∃ m, (h, m) ∈ s.subscribes ∧ (s.subscribedStreams h).lookup m.subscribeID = some ref ∧
      rs.streamID = m.getStreamID := by
  obtain ⟨m, hpc⟩ | ⟨subid, hlookup⟩ := hb.subscribers ref rs hrs h hsub
  · exact absurd ⟨h, by rw [hpc]; rfl⟩ hreg
  · obtain ⟨m, hm, rfl⟩ := hb.known h subid ref hlookup
    obtain ⟨rs', hrs', hid⟩ := hb.streams h m ref hm (Or.inr hlookup)
    rw [hrs, Option.some.injEq] at hrs'
    exact ⟨m, hm, hlookup, hrs' ▸ hid⟩

/-! ## counting answers -/

/-- The answers written, and those about to be written. -/
def State.answers (s : State H) : List (H × SubscribeOk) := s.writers ++ s.oks

theorem perm_wrote {i : Nat} {ok : H × SubscribeOk} (hi : s.writers[i]? = some ok) :
    (s.writers.eraseIdx i ++ (s.oks ++ [ok])).Perm s.answers := by
  obtain ⟨hlt, rfl⟩ := List.getElem?_eq_some_iff.mp hi
  rw [← List.append_assoc, State.answers]
  calc (s.writers.eraseIdx i ++ s.oks ++ [s.writers[i]]).Perm
        (s.writers[i] :: s.writers.eraseIdx i ++ s.oks) := List.perm_append_singleton _ _
    _ |>.Perm (s.writers ++ s.oks) := (List.getElem_cons_eraseIdx_perm hlt).append_right _

variable [DecidableEq H]

/-- A `SUBSCRIBE_OK` to the session under the id. -/
def answersTo (h : H) (subid : Nat) (y : H × SubscribeOk) : Bool :=
  decide (y.1 = h ∧ y.2.subscribeID = subid)

/-- A message has had one answer if its relay stream has brought one, and none
otherwise; and there are no answers but to messages. -/
structure State.Count (s : State H) : Prop where
  waits : ∀ h m, (s.pc h).message = some m → (s.pc h).target = none →
    s.answers.countP (answersTo h m.subscribeID) = 0
  assigned : ∀ h m ref, (h, m) ∈ s.subscribes → s.Assigned h m ref →
    s.Answered h ref ∧ s.answers.countP (answersTo h m.subscribeID) = 1 ∨
      ¬ s.Answered h ref ∧ s.answers.countP (answersTo h m.subscribeID) = 0
  used : ∀ y ∈ s.answers, ∃ x ∈ s.subscribes, x.1 = y.1 ∧ x.2.subscribeID = y.2.subscribeID

theorem count_init : ({} : State H).Count :=
  ⟨nofun, nofun, nofun⟩

/-- Steps without a new message or answer. -/
theorem State.Count.same {s s' : State H} (hc : s.Count) (hsub : s'.subscribes = s.subscribes)
    (hperm : s'.answers.Perm s.answers)
    (hwaits : ∀ h m, (s'.pc h).message = some m → (s'.pc h).target = none →
      (s.pc h).message = some m ∧ (s.pc h).target = none)
    (hassigned : ∀ h m ref, (h, m) ∈ s.subscribes → s'.Assigned h m ref →
      s.Assigned h m ref ∧ (s'.Answered h ref ↔ s.Answered h ref)) : s'.Count := by
  constructor
  case waits =>
    intro h m hm ht
    obtain ⟨hm', ht'⟩ := hwaits h m hm ht
    rw [hperm.countP_eq]
    exact hc.waits h m hm' ht'
  case assigned =>
    intro h m ref hm ha
    rw [hsub] at hm
    obtain ⟨ha', hiff⟩ := hassigned h m ref hm ha
    rw [hperm.countP_eq, hiff]
    exact hc.assigned h m ref hm ha'
  case used =>
    intro y hy
    rw [hsub]
    exact hc.used y (hperm.mem_iff.mp hy)

/-- A step that answers one message. -/
theorem State.Count.answer {s s' : State H} (hb : s.Book) (hc : s.Count)
    {ok : SubscribeOk} (hm : (h, m) ∈ s.subscribes) (hok : ok.subscribeID = m.subscribeID)
    (hsub : s'.subscribes = s.subscribes) (hperm : s'.answers.Perm ((h, ok) :: s.answers))
    (hzero : s.answers.countP (answersTo h m.subscribeID) = 0)
    (hassigned : ∀ ref, s'.Assigned h m ref → s'.Answered h ref)
    (hwaits : ∀ h' m', (s'.pc h').message = some m' → (s'.pc h').target = none →
      (h', m') ≠ (h, m) ∧ (s.pc h').message = some m' ∧ (s.pc h').target = none)
    (hothers : ∀ h' m' ref, (h', m') ∈ s.subscribes → (h', m') ≠ (h, m) → s'.Assigned h' m' ref →
      s.Assigned h' m' ref ∧ (s'.Answered h' ref ↔ s.Answered h' ref)) : s'.Count := by
  -- the counts of the other messages stay, since ids are not shared
  have hcount : ∀ h' m', (h', m') ∈ s.subscribes → (h', m') ≠ (h, m) →
      s'.answers.countP (answersTo h' m'.subscribeID) =
        s.answers.countP (answersTo h' m'.subscribeID) := by
    intro h' m' hm' hne
    rw [hperm.countP_eq, List.countP_cons_of_neg]
    rw [answersTo, decide_eq_true_eq]
    rintro ⟨heq, hid⟩
    exact hne (hb.ids _ hm' _ hm heq.symm (hid.symm.trans hok))
  constructor
  case waits =>
    intro h' m' hm' ht'
    obtain ⟨hne, hm'', ht''⟩ := hwaits h' m' hm' ht'
    rw [hcount h' m' (hb.current h' m' hm'').1 hne]
    exact hc.waits h' m' hm'' ht''
  case assigned =>
    intro h' m' ref hm' ha
    rw [hsub] at hm'
    by_cases heq : (h', m') = (h, m)
    · rw [Prod.mk.injEq] at heq
      obtain ⟨rfl, rfl⟩ := heq
      refine Or.inl ⟨hassigned ref ha, ?_⟩
      rw [hperm.countP_eq, List.countP_cons_of_pos, hzero]
      rw [answersTo, decide_eq_true_eq]
      exact ⟨rfl, hok⟩
    · obtain ⟨ha', hiff⟩ := hothers h' m' ref hm' heq ha
      rw [hcount h' m' hm' heq, hiff]
      exact hc.assigned h' m' ref hm' ha'
  case used =>
    intro y hy
    rw [hsub]
    rw [hperm.mem_iff, List.mem_cons] at hy
    obtain rfl | hy := hy
    · exact ⟨(h, m), hm, rfl, hok.symm⟩
    · exact hc.used y hy

/-! ## steps -/

/-- Steps that leave messages, answers and phases as they are. -/
theorem State.Count.frame {s s' : State H} (hb : s.Book) (hc : s.Count)
    (hsub : s'.subscribes = s.subscribes) (hperm : s'.answers.Perm s.answers)
    (hsubscribed : s'.subscribedStreams = s.subscribedStreams)
    (hmessage : ∀ h, (s'.pc h).message = (s.pc h).message)
    (htarget : ∀ h, (s'.pc h).target = (s.pc h).target)
    (hsame : SameStreams s.relayStreams s'.relayStreams) (hunanswered : s'.unanswered = s.unanswered)
    (hforwarding : ∀ h ref msg due served, s'.pc h = .forwarding ref msg due served ↔
      s.pc h = .forwarding ref msg due served) : s'.Count := by
  refine hc.same hsub hperm (fun h m hm ht => ?_) fun h m ref hm ha => ?_
  · rw [hmessage] at hm
    rw [htarget] at ht
    exact ⟨hm, ht⟩
  · simp only [State.Assigned, hmessage, htarget, hsubscribed] at ha
    obtain ⟨rs, hrs, -⟩ := hb.streams h m ref hm ha
    obtain ⟨rs', hrs', hfixed⟩ := hsame.symm.getElem? hrs
    exact ⟨ha, answered_congr hrs hrs' hfixed (by rw [hunanswered]) (hforwarding · ref) h⟩

/-- A message that has a relay stream has it already, if the step takes up none. -/
theorem State.Assigned.of_goto {pc : Pc H} (htarget : pc.target = none) {h' : H}
    (ha : (s.goto h pc).Assigned h' m ref) :
    s.Assigned h' m ref := by
  rw [State.Assigned, pc_goto] at ha
  obtain ⟨hm, ht⟩ | hlookup := ha
  · split at ht
    · rw [htarget] at ht
      contradiction
    · next hne =>
      rw [if_neg hne] at hm
      exact Or.inl ⟨hm, ht⟩
  · exact Or.inr hlookup

/-- A change of program counter of a goroutine that does not forward the relay stream. -/
theorem answered_goto {pc : Pc H} (hold : ∀ msg due served, s.pc h ≠ .forwarding ref msg due served)
    (hnew : ∀ msg due served, pc ≠ .forwarding ref msg due served) (h' : H) :
    (s.goto h pc).Answered h' ref ↔ s.Answered h' ref := by
  have hforwarding : ∀ h' msg due served, (s.goto h pc).pc h' = .forwarding ref msg due served ↔
      s.pc h' = .forwarding ref msg due served := by grind
  simp only [State.Answered, relayStreams_goto, unanswered_goto, hforwarding]

section

variable (hb : s.Book) (hc : s.Count)
include hb hc

theorem count_accepted {msg : Subscribe} (publisher : H) (hpc : s.pc h = .idle)
    (hfresh : ∀ x ∈ s.subscribes, x.1 = h → x.2.subscribeID ≠ msg.subscribeID) :
    ({ s with subscribes := s.subscribes ++ [(h, msg)] }.goto h (.accepted msg publisher)).Count := by
  constructor
  case waits =>
    intro h' m hm ht
    rw [pc_goto] at hm ht
    split at hm
    · next heq =>
      rw [Pc.message, Option.some.injEq] at hm
      subst heq hm
      rw [List.countP_eq_zero]
      intro y hy hto
      rw [answersTo, decide_eq_true_eq] at hto
      obtain ⟨x, hx, hh, hid⟩ := hc.used y hy
      exact hfresh x hx (hh.trans hto.1) (hid.trans hto.2)
    · next hne =>
      rw [if_neg hne] at ht
      exact hc.waits h' m hm ht
  case assigned =>
    intro h' m ref hm ha
    have ha' : s.Assigned h' m ref := ha.of_goto rfl
    obtain hm | hm := List.mem_append.mp hm
    · have hiff : (s.goto h (.accepted msg publisher)).Answered h' ref ↔ s.Answered h' ref :=
        answered_goto (by simp [hpc]) (by simp) h'
      have hcount := hc.assigned h' m ref hm ha'
      rw [← hiff] at hcount
      exact hcount
    · rw [List.mem_singleton, Prod.mk.injEq] at hm
      obtain ⟨rfl, rfl⟩ := hm
      obtain ⟨hm', -⟩ | hlookup := ha'
      · rw [hpc] at hm'
        contradiction
      · obtain ⟨m', hm', hid⟩ := hb.known h' _ ref hlookup
        exact absurd hid (hfresh _ hm' rfl)
  case used =>
    intro y hy
    obtain ⟨x, hx, heq⟩ := hc.used y hy
    exact ⟨x, List.mem_append_left _ hx, heq⟩

theorem count_cached {msg : Subscribe}
    (hpc : s.pc h = .accepted msg publisher) (hset : s.Settled ref) :
    ({ s with writers := s.writers ++ [(h, cachedOk msg)] }.goto h (.fetched msg ref)).Count := by
  have hmsg : (s.pc h).message = some msg := by rw [hpc]; rfl
  obtain ⟨hm, hnone⟩ := hb.current h msg hmsg
  have hperm : (s.writers ++ [(h, cachedOk msg)] ++ s.oks).Perm ((h, cachedOk msg) :: s.answers) := by
    rw [List.append_assoc]
    exact List.perm_middle
  have hiff : ∀ h' ref', (s.goto h (.fetched msg ref)).Answered h' ref' ↔ s.Answered h' ref' :=
    fun h' ref' => answered_goto (by simp [hpc]) (by simp) h'
  refine State.Count.answer hb hc hm ?_ rfl hperm (hc.waits h msg hmsg (by rw [hpc]; rfl)) ?_ ?_ ?_
  · rfl
  · intro ref' ha
    refine (hiff h ref').mpr ?_
    have ha' : (s.goto h (.fetched msg ref)).Assigned h msg ref' := ha
    simp only [State.Assigned, pc_goto, Pc.message, Pc.target, subscribedStreams_goto, hnone] at ha'
    simp at ha'
    exact ha' ▸ hset.answered h
  · intro h' m' hm' ht'
    grind [Pc.target]
  · intro h' m' ref' hm' hne ha
    refine ⟨?_, hiff h' ref'⟩
    grind [State.Assigned, Pc.target, Pc.message]

theorem count_opened {msg : Subscribe} {draw : UInt32} (hpc : s.pc h = .missed msg publisher)
    (hfresh : (s.incomingStreams publisher).lookup draw.toNat = none) :
    (s.sendSubscribe h msg publisher draw).Count := by
  have hmsg : (s.pc h).message = some msg := by rw [hpc]; rfl
  obtain ⟨hm, hnone⟩ := hb.current h msg hmsg
  constructor
  case waits =>
    intro h' m' hm' ht'
    exact hc.waits h' m' (by grind [Pc.target]) (by grind [Pc.target])
  case assigned =>
    intro h' m' ref hm' ha
    have hcases : (h' = h ∧ m' = msg ∧ ref = s.relayStreams.length) ∨ s.Assigned h' m' ref := by
      grind [State.Assigned, Pc.message, Pc.target]
    obtain ⟨rfl, rfl, rfl⟩ | ha' := hcases
    · refine Or.inr ⟨?_, hc.waits h' m' hmsg (by rw [hpc]; rfl)⟩
      rw [answered_iff (getElem?_sendSubscribe_new s h' m' publisher draw)]
      simp [RelayStream.newRelayStream]
    · obtain ⟨rs, hrs, -⟩ := hb.streams h' m' ref hm' ha'
      have hne := hb.store.ne_fresh hrs hfresh
      rw [answered_congr hrs (getElem?_sendSubscribe_old hrs) rfl (by simp [hne]) (by grind)]
      exact hc.assigned h' m' ref hm' ha'
  case used => exact hc.used

theorem count_recorded {msg : Subscribe}
    (hpc : s.pc h = .added msg ref) : (s.addStream h msg ref).Count := by
  have hmsg : (s.pc h).message = some msg := by rw [hpc]; rfl
  obtain ⟨hm, hnone⟩ := hb.current h msg hmsg
  have hiff : ∀ h' ref', (s.addStream h msg ref).Answered h' ref' ↔ s.Answered h' ref' :=
    fun h' ref' => answered_goto (by simp [hpc]) (by simp) h'
  refine hc.same rfl (List.Perm.refl _) (fun h' m' hm' ht' => ?_) fun h' m' ref' hm' ha => ?_
  · grind [Pc.message]
  · refine ⟨?_, hiff h' ref'⟩
    rw [State.Assigned, lookup_subscribed_addStream] at ha
    obtain ⟨hm'', ht''⟩ | hlookup := ha
    · exact Or.inl (by grind [Pc.message])
    · split at hlookup
      · next heq =>
        obtain ⟨rfl, hid⟩ := heq
        cases hlookup
        have hmm := hb.ids _ hm' _ hm rfl hid
        rw [Prod.mk.injEq] at hmm
        exact Or.inl ⟨hmm.2 ▸ hmsg, by rw [hpc]; rfl⟩
      · exact Or.inr hlookup

theorem count_answered (hpc : s.pc publisher = .idle)
    (hlookup : (s.incomingStreams publisher).lookup msg.subscribeID = some ref)
    (hrs : s.relayStreams[ref]? = some rs) (hwaits : (publisher, msg.subscribeID) ∈ s.unanswered) :
    ({ s with unanswered := s.unanswered.erase (publisher, msg.subscribeID) }.goto publisher
      (.forwarding ref msg rs.subscribers [])).Count := by
  obtain ⟨hpub, hid, hother⟩ := hb.store.answered hlookup hrs
  refine hc.same rfl (List.Perm.refl _) (fun h m hm ht => ?_) fun h m ref' hm ha => ?_
  · grind [Pc.message]
  · have ha' : s.Assigned h m ref' := ha.of_goto rfl
    refine ⟨ha', ?_⟩
    by_cases heq : ref' = ref
    · subst heq
      -- the relay stream was waiting, and has not served anyone yet
      constructor
      · intro hans
        obtain ⟨-, hserved⟩ := hans rs hrs
        exact absurd (hserved msg rs.subscribers [] (by rw [hpub, pc_goto, if_pos rfl])) List.not_mem_nil
      · intro hans
        obtain ⟨hun, -⟩ := hans rs hrs
        rw [hpub, hid] at hun
        exact absurd hwaits hun
    · obtain ⟨rs', hrs', -⟩ := hb.streams h m ref' hm ha'
      have hne := hother ref' rs' hrs' heq
      refine answered_congr hrs' ?_ rfl ?_ ?_ h
      · exact hrs'
      · exact List.mem_erase_of_ne hne
      · grind

end

theorem count_served (hb : s.Book) (hp : s.Phase) (hc : s.Count) {publisher h : H}
    {ref subid ref' : Nat} (hpc : s.pc publisher = .forwarding ref msg due served)
    (hrs : s.relayStreams[ref]? = some rs) (hsub : h ∈ rs.subscribers) (hnew : h ∉ served)
    (hlookup : (s.subscribedStreams h).lookup subid = some ref')
    (hid : s.getStreamID ref' = rs.streamID) :
    ({ s with oks := s.oks ++ [(h, { msg with subscribeID := subid })] }.goto publisher
      (.forwarding ref msg due (h :: served))).Count := by
  obtain ⟨rfl, hun, -, hreg⟩ := hp.forwarding_stream hpc hrs
  have hanswered := answered_forwarding hrs hun hpc
  obtain ⟨m, hm, hml, hmid⟩ := hb.subscriber_message hrs hreg hsub
  -- the id that is found for the stream id is the one of the message
  have hsubid : subid = m.subscribeID := by
    obtain ⟨m', hm', rfl⟩ := hb.known h subid ref' hlookup
    obtain ⟨rs', hrs', -⟩ := hb.streams h m' ref' hm' (Or.inr hlookup)
    rw [getStreamID_eq hrs'] at hid
    exact hb.subid_eq hm hlookup hrs' (hid.trans hmid)
  have hperm : (s.writers ++ (s.oks ++ [(h, { msg with subscribeID := subid })])).Perm
      ((h, { msg with subscribeID := subid }) :: s.answers) := by
    rw [← List.append_assoc]
    exact List.perm_append_singleton _ _
  have hserved : ∀ h', (s.goto rs.publisher (.forwarding ref msg due (h :: served))).Answered h' ref ↔
      h' ∈ h :: served :=
    answered_forwarding hrs hun (by rw [pc_goto, if_pos rfl])
  refine State.Count.answer hb hc hm hsubid rfl hperm ?_ ?_ ?_ ?_
  · obtain ⟨ha, -⟩ | ⟨-, hzero⟩ := hc.assigned h m ref hm (Or.inr hml)
    · exact absurd ((hanswered h).mp ha) hnew
    · exact hzero
  · intro ref'' ha
    have ha' : s.Assigned h m ref'' := ha.of_goto rfl
    obtain rfl := hb.assigned_unique (Or.inr hml) ha'
    exact (hserved h).mpr List.mem_cons_self
  · intro h' m' hm' ht'
    have hm'' : (s.pc h').message = some m' := by grind [Pc.message]
    refine ⟨fun heq => ?_, hm'', by grind [Pc.message]⟩
    rw [Prod.mk.injEq] at heq
    obtain ⟨rfl, rfl⟩ := heq
    rw [(hb.current h' m' hm'').2] at hml
    contradiction
  · intro h' m' ref'' hm' hne ha
    have ha' : s.Assigned h' m' ref'' := ha.of_goto rfl
    refine ⟨ha', ?_⟩
    by_cases heq : ref'' = ref
    · subst heq
      have hh : h' ≠ h := by
        rintro rfl
        rw [hb.message_unique hm hm' (Or.inr hml) ha'] at hne
        exact hne rfl
      exact (hserved h').trans (by rw [hanswered, List.mem_cons, or_iff_right hh])
    · exact answered_goto (by grind) (by grind) h'

theorem count_ended (hp : s.Phase) (hc : s.Count)
    (hpc : s.pc publisher = .forwarding ref msg due served) (hrs : s.relayStreams[ref]? = some rs)
    (hdue : ∀ h ∈ due, h ∈ rs.subscribers → h ∈ served) : (s.goto publisher .idle).Count := by
  obtain ⟨rfl, hun, hsubset, hreg⟩ := hp.forwarding_stream hpc hrs
  refine hc.same rfl (List.Perm.refl _) (fun h m hm ht => ?_) fun h m ref' hm ha => ?_
  · grind [Pc.message]
  · have ha' : s.Assigned h m ref' := ha.of_goto rfl
    refine ⟨ha', ?_⟩
    by_cases heq : ref' = ref
    · subst heq
      -- those with a message on the relay stream were among its subscribers
      have hserved : h ∈ served := by
        obtain ⟨-, ht⟩ | hlookup := ha'
        · exact absurd ⟨h, ht⟩ hreg
        · have hin := hp.joined h _ ref' rs hlookup hrs fun hs => (hs rs hrs).2 msg due served hpc
          exact hdue h (hsubset hin) hin
      have hidle : (s.goto rs.publisher .idle).Answered h ref' :=
        (answered_iff (s := s.goto rs.publisher .idle) hrs h).mpr ⟨hun, by simp⟩
      exact iff_of_true hidle ((answered_forwarding hrs hun hpc h).mpr hserved)
    · exact answered_goto (by grind) (by simp) h

/-- Removing subscribers. -/
theorem count_thinned {s s' : State H} (hb : s.Book) (hc : s.Count) (ht : s.Thinned h s') :
    s'.Count := by
  have hrest := ht.rest
  have hpcs : s'.pc = s.pc := by rw [hrest]
  refine hc.frame hb (by rw [hrest]) ?_ (by rw [hrest]) (by simp [hpcs]) (by simp [hpcs]) ht.same
    (by rw [hrest]) (by simp [hpcs])
  rw [State.answers, hrest]
  exact List.Perm.refl _

/-- **One step** keeps the count of answers. -/
theorem count_step (a : Action H) (hb : s.Book) (hp : s.Phase) (hc : s.Count)
    (hans : AnswersOnce s a) (ha : Orderly s a) : (step s a).Count := by
  generalize hs' : step s a = s'
  have hsteps := hs' ▸ steps_step s a
  cases hsteps with
  | skip => exact hc
  | announced | found | spread | dropped | forwarded =>
    exact hc.frame hb rfl (List.Perm.refl _) rfl (fun _ => rfl) (fun _ => rfl) rfl rfl
      fun _ _ _ _ _ => Iff.rfl
  | wrote hi =>
    exact hc.frame hb rfl (perm_wrote hi) rfl (fun _ => rfl) (fun _ => rfl) rfl rfl
      fun _ _ _ _ _ => Iff.rfl
  | accepted hpc hpub =>
    exact count_accepted hb hc _ hpc fun x hx hh => (ha.1.2 x hx hh).1
  | missed pick hpc =>
    refine hc.frame hb rfl (List.Perm.refl _) rfl ?_ ?_ rfl rfl ?_
    all_goals grind [Pc.message, Pc.target]
  | cached hpc hanew hfind hlookup hid =>
    exact count_cached hb hc hpc (ha.2 _ _ _ hpc hanew hfind)
  | opened draw hpc =>
    have hfresh := ha.1.1
    simp only [DrawsFresh, hpc] at hfresh
    exact count_opened hb hc hpc hfresh
  | added hpc =>
    refine hc.frame hb rfl (List.Perm.refl _) rfl ?_ ?_ (sameStreams_addSubscriber s _ _) rfl ?_
    all_goals grind [Pc.message, Pc.target]
  | recorded hpc => exact count_recorded hb hc hpc
  | ignored hpc hnone =>
    obtain ⟨ref, rs, hlookup, hrs⟩ := hp.waiting_stream hb.store hans
    exact absurd hrs (hnone ref rs hlookup)
  | answered hpc hlookup hrs => exact count_answered hb hc hpc hlookup hrs hans
  | served hpc hrs hsub hnew hlookup hid => exact count_served hb hp hc hpc hrs hsub hnew hlookup hid
  | unserved hpc hrs hsub hnew hnone =>
    obtain ⟨-, -, -, hreg⟩ := hp.forwarding_stream hpc hrs
    obtain ⟨m, hm, hlookup, -⟩ := hb.subscriber_message hrs hreg hsub
    exact absurd (getStreamID_eq hrs) (hnone _ _ hlookup)
  | ended hpc hrs hdue => exact count_ended hp hc hpc hrs hdue
  | unsubscribed hpc hlookup => exact count_thinned hb hc (thinned_removeSubscriber s _ _)
  | closed h => exact count_thinned hb hc (thinned_handleClose s h)

/-! ## whole runs -/

/-- All goroutines are back, all answers are written, and the publishers have
answered. -/
def State.Quiet (s : State H) : Prop :=
  (∀ h, s.pc h = .idle) ∧ s.writers = [] ∧ s.unanswered = []

/-- Every accepted `SUBSCRIBE` has been answered once, and no answer carries an id
that the subscriber did not use. -/
def State.AnsweredOnce (s : State H) : Prop :=
  (∀ x ∈ s.subscribes, s.oks.countP (answersTo x.1 x.2.subscribeID) = 1) ∧
    ∀ y ∈ s.oks, ∃ x ∈ s.subscribes, x.1 = y.1 ∧ x.2.subscribeID = y.2.subscribeID

theorem answeredOnce_of_quiet (hb : s.Book) (hc : s.Count) (hq : s.Quiet) : s.AnsweredOnce := by
  obtain ⟨hidle, hwriters, hun⟩ := hq
  have hanswers : s.answers = s.oks := by rw [State.answers, hwriters, List.nil_append]
  constructor
  · rintro ⟨h, m⟩ hm
    obtain hmsg | ⟨ref, hlookup⟩ := hb.located h m hm
    · rw [hidle] at hmsg
      contradiction
    · rw [← hanswers]
      obtain ⟨-, hone⟩ | ⟨hnot, -⟩ := hc.assigned h m ref hm (Or.inr hlookup)
      · exact hone
      · refine absurd ?_ hnot
        intro rs hrs
        simp [hun, hidle]
  · rw [← hanswers]
    exact hc.used

/-- **Answered once**: in every run whose publishers answer each `SUBSCRIBE` once and
whose steps are orderly, whenever all goroutines are back every accepted `SUBSCRIBE`
has been answered exactly once. -/
theorem answered_once (acts : List (Action H)) (hans : Machine.EachStep step AnswersOnce {} acts)
    (ho : Machine.EachStep step Orderly {} acts) :
    ∀ s ∈ Machine.states step {} acts, s.Quiet → s.AnsweredOnce := by
  have hinv : ∀ s ∈ Machine.states step {} acts, s.Book ∧ s.Phase ∧ s.Count := by
    refine Machine.states_of_eachStep acts _ ?_ (hans.and ho) ⟨book_init, phase_init, count_init⟩
    rintro s a - ⟨hb, hp, hc⟩ ⟨hans, ho⟩
    exact ⟨book_step a hb ho.1, phase_step a hb hp hans ho, count_step a hb hp hc hans ho⟩
  intro s hs hq
  obtain ⟨hb, -, hc⟩ := hinv s hs
  exact answeredOnce_of_quiet hb hc hq

/-- A `SUBSCRIBE` for the track `b` of the namespace `a`. -/
def subscribeB (subid : Nat) : Subscribe :=
  { subscribeID := subid, trackNameSpace := [97], trackName := [98] }

/-- Session 0 publishes, and the first subscriber is answered before the second
comes. -/
def inTurn : List (Action Nat) :=
  [.announce 0 { trackNameSpace := [97] }, .subscribe 1 (subscribeB 4), .getObjectStream 1 0,
    .sendSubscribe 1 7, .addSubscriber 1, .addStream 1, .subscribeOk 0 { subscribeID := 7 },
    .forwardOk 0 1 0, .endForward 0, .subscribe 2 (subscribeB 5), .getObjectStream 2 0,
    .addSubscriber 2, .addStream 2, .writeOk 0]

theorem inTurn_answersOnce : Machine.EachStep step AnswersOnce {} inTurn := by
  exact ⟨trivial, trivial, trivial, trivial, trivial, trivial, List.mem_singleton.mpr rfl, trivial,
    trivial, trivial, trivial, trivial, trivial, trivial, trivial⟩

theorem inTurn_answered :
    (Machine.run step {} inTurn).oks.map (fun y => (y.1, y.2.subscribeID)) = [(1, 4), (2, 5)] ∧
      (Machine.run step {} inTurn).AnsweredOnce := by
  refine ⟨by decide, answered_once inTurn inTurn_answersOnce ?_ _ (Machine.run_mem_states _ _) ?_⟩
  · refine ⟨⟨⟨trivial, trivial⟩, trivial⟩, ⟨⟨trivial, nofun⟩, trivial⟩, ⟨⟨trivial, trivial⟩, nofun⟩,
      ⟨⟨rfl, trivial⟩, trivial⟩, ⟨⟨trivial, trivial⟩, trivial⟩, ⟨⟨trivial, trivial⟩, trivial⟩,
      ⟨⟨trivial, trivial⟩, ?_⟩, ⟨⟨trivial, trivial⟩, trivial⟩, ⟨⟨trivial, trivial⟩, trivial⟩,
      ⟨⟨trivial, ?_⟩, trivial⟩, ⟨⟨trivial, trivial⟩, ?_⟩, ⟨⟨trivial, trivial⟩, trivial⟩,
      ⟨⟨trivial, trivial⟩, trivial⟩, ⟨⟨trivial, trivial⟩, trivial⟩, trivial⟩
    · -- no session is registering when the answer comes
      rintro ref - ⟨h, hh⟩
      match h with
      | 0 | 1 | 2 | _ + 3 => cases hh
    · rintro x hx hh
      cases List.mem_singleton.mp hx
      contradiction
    · rintro msg publisher ref hpc - hfind
      cases hpc
      cases hfind
      intro rs hrs
      cases hrs
      exact ⟨List.not_mem_nil, nofun⟩
  · refine ⟨fun h => ?_, rfl, rfl⟩
    match h with
    | 0 | 1 | 2 | _ + 3 => rfl

/-- The publisher's answer is handled before the subscriber is registered. -/
def earlyOk : List (Action Nat) :=
  [.announce 0 { trackNameSpace := [97] }, .subscribe 1 (subscribeB 4), .getObjectStream 1 0,
    .sendSubscribe 1 7, .subscribeOk 0 { subscribeID := 7 }, .endForward 0, .addSubscriber 1,
    .addStream 1]

/-- The second subscriber comes before the publisher's answer. -/
def lateOk : List (Action Nat) :=
  [.announce 0 { trackNameSpace := [97] }, .subscribe 1 (subscribeB 4), .getObjectStream 1 0,
    .sendSubscribe 1 7, .addSubscriber 1, .addStream 1, .subscribe 2 (subscribeB 5),
    .getObjectStream 2 0, .addSubscriber 2, .addStream 2, .writeOk 0,
    .subscribeOk 0 { subscribeID := 7 }, .forwardOk 0 1 0, .forwardOk 0 2 0, .endForward 0]

/-- **Counterexample**: a subscription that is never answered, and one that is answered
twice. -/
theorem unanswered_and_answered_twice :
    (Machine.EachStep step AnswersOnce {} earlyOk ∧ (Machine.run step {} earlyOk).Quiet ∧
      (Machine.run step {} earlyOk).subscribes = [(1, subscribeB 4)] ∧
      (Machine.run step {} earlyOk).oks = [] ∧ ¬ (Machine.run step {} earlyOk).AnsweredOnce) ∧
    (Machine.EachStep step AnswersOnce {} lateOk ∧ (Machine.run step {} lateOk).Quiet ∧
      (Machine.run step {} lateOk).oks.map (fun y => (y.1, y.2.subscribeID)) =
        [(2, 5), (1, 4), (2, 5)] ∧
      ¬ (Machine.run step {} lateOk).AnsweredOnce) := by
  refine ⟨⟨?_, ⟨fun h => ?_, rfl, rfl⟩, by decide, by decide, ?_⟩,
    ⟨?_, ⟨fun h => ?_, rfl, rfl⟩, by decide, ?_⟩⟩
  · exact ⟨trivial, trivial, trivial, trivial, List.mem_singleton.mpr rfl, trivial, trivial, trivial,
      trivial⟩
  · match h with
    | 0 | 1 | 2 | _ + 3 => rfl
  · unfold State.AnsweredOnce
    decide
  · exact ⟨trivial, trivial, trivial, trivial, trivial, trivial, trivial, trivial, trivial, trivial,
      trivial, List.mem_singleton.mpr rfl, trivial, trivial, trivial, trivial⟩
  · match h with
    | 0 | 1 | 2 | _ + 3 => rfl
  · unfold State.AnsweredOnce
    decide

end MoqQuic.Moqt
