import MoqQuic.Lib.Outcome
import MoqQuic.Quic.StreamsMap

/-!
# MoqQuic.Quic.StreamsMap.Streamwise

The maps do not look into their streams: a map whose streams are all changed by a function does what
the map does, and its streams are changed likewise afterwards.
-/

namespace MoqQuic.Quic

variable {τ : Type} {P : τ → Prop} {φ : τ → τ}

/-! ## streams that we open -/

namespace OutgoingStreamsMap

variable {m : OutgoingStreamsMap τ} {newStream : StreamID → τ}

/-- Every stream is changed. -/
def mapStreams (φ : τ → τ) (m : OutgoingStreamsMap τ) : OutgoingStreamsMap τ :=
  { m with streams := mapValues φ m.streams }

theorem openStream_mapStreams (hnew : ∀ id, φ (newStream id) = newStream id) :
    (m.mapStreams φ).openStream newStream = (m.openStream newStream).map id (mapStreams φ) := by
  simp only [openStream, mapStreams, Prod.map, mapValues_insert, hnew, id]

theorem maybeSendBlockedFrame_mapStreams :
    (m.mapStreams φ).maybeSendBlockedFrame = m.maybeSendBlockedFrame.mapStreams φ := by
  simp only [maybeSendBlockedFrame, apply_ite (mapStreams φ)]
  rfl

section

variable (hnew : ∀ id, φ (newStream id) = newStream id)

include hnew

theorem tryOpenStream_mapStreams :
    (m.mapStreams φ).tryOpenStream newStream =
      (m.tryOpenStream newStream).map id (mapStreams φ) := by
  simp only [tryOpenStream, openStream_mapStreams hnew, maybeSendBlockedFrame_mapStreams,
    apply_ite (Prod.map id (mapStreams φ))]
  rfl

theorem openStreamSync_mapStreams (cancelled : Bool)
    (waitChan : Nat) : (m.mapStreams φ).openStreamSync newStream cancelled waitChan =
      (m.openStreamSync newStream cancelled waitChan).map id (mapStreams φ) := by
  have hwait : { m.mapStreams φ with
        openQueue := (m.mapStreams φ).openQueue ++ [waitChan] }.maybeSendBlockedFrame =
      mapStreams φ { m with openQueue := m.openQueue ++ [waitChan] }.maybeSendBlockedFrame :=
    maybeSendBlockedFrame_mapStreams (m := { m with openQueue := m.openQueue ++ [waitChan] })
  simp only [openStreamSync, openStream_mapStreams hnew, hwait,
    apply_ite (Prod.map id (mapStreams φ))]
  rfl

theorem resumeOpen_mapStreams :
    (m.mapStreams φ).resumeOpen newStream =
      (m.resumeOpen newStream).map (Prod.map id (Prod.map (mapStreams φ) id)) := by
  simp only [resumeOpen, openStream_mapStreams hnew,
    apply_ite (Except.map (Prod.map id (Prod.map (mapStreams φ) id)))]
  have hqueue : ((m.openStream newStream).map id (mapStreams φ)).2.openQueue =
    (m.openStream newStream).2.openQueue := rfl
  rw [hqueue]
  cases (m.openStream newStream).2.openQueue <;> rfl

end

theorem deleteStream_mapStreams (id : StreamID) :
    (m.mapStreams φ).deleteStream id = (m.deleteStream id).map (mapStreams φ) := by
  unfold deleteStream
  simp only [mapStreams, lookup_mapValues]
  cases m.streams.lookup id <;> simp [Except.map, mapStreams]

theorem setMaxStream_mapStreams (id : StreamID) :
    ((m.mapStreams φ).setMaxStream id).1 = (m.setMaxStream id).1.mapStreams φ := by
  have hblocked : { m.mapStreams φ with
        maxStream := id, blockedSent := false }.maybeSendBlockedFrame =
      mapStreams φ { m with maxStream := id, blockedSent := false }.maybeSendBlockedFrame :=
    maybeSendBlockedFrame_mapStreams (m := { m with maxStream := id, blockedSent := false })
  rw [setMaxStream, setMaxStream, apply_ite Prod.fst, apply_ite Prod.fst]
  refine Outcome.ite_map rfl ?_
  simp only [hblocked, apply_ite (mapStreams φ)]
  rfl

theorem closeWithError_mapStreams [OutgoingStream τ]
    (hclose : ∀ str ∈ values m.streams, φ (OutgoingStream.closeForShutdown str) =
      OutgoingStream.closeForShutdown (φ str)) :
    (m.mapStreams φ).closeWithError.1 = m.closeWithError.1.mapStreams φ := by
  simp only [closeWithError, mapStreams, mapValues_mapValues]
  congr 1
  exact mapValues_congr fun str hstr => (hclose str hstr).symm

theorem updateSendWindow_mapStreams [OutgoingStream τ] {limit : Nat}
    (hupdate : ∀ str : τ, φ (OutgoingStream.updateSendWindow str limit) =
      OutgoingStream.updateSendWindow (φ str) limit) :
    (m.mapStreams φ).updateSendWindow limit = (m.updateSendWindow limit).mapStreams φ := by
  simp only [updateSendWindow, mapStreams, mapValues_mapValues]
  congr 1
  exact mapValues_congr fun str _ => (hupdate str).symm

theorem enableResetStreamAt_mapStreams [OutgoingStream τ]
    (henable : ∀ str : τ, φ (OutgoingStream.enableResetStreamAt str) =
      OutgoingStream.enableResetStreamAt (φ str)) :
    (m.mapStreams φ).enableResetStreamAt = m.enableResetStreamAt.mapStreams φ := by
  simp only [enableResetStreamAt, mapStreams, mapValues_mapValues]
  congr 1
  exact mapValues_congr fun str _ => (henable str).symm

theorem streams_maybeSendBlockedFrame : m.maybeSendBlockedFrame.streams = m.streams := by
  unfold maybeSendBlockedFrame
  split <;> rfl

theorem streams_setMaxStream (id : StreamID) : (m.setMaxStream id).1.streams = m.streams := by
  unfold setMaxStream
  split
  · rfl
  · dsimp only
    split
    · rw [streams_maybeSendBlockedFrame]
    · rfl

end OutgoingStreamsMap

/-! ## streams of the peer -/

namespace IncomingStreamsMap

variable {m : IncomingStreamsMap τ} {newStream : StreamID → τ}

/-- The stream of an entry is changed. -/
def mapEntry (φ : τ → τ) (entry : IncomingStreamEntry τ) : IncomingStreamEntry τ :=
  { entry with stream := φ entry.stream }

/-- Every stream is changed. -/
def mapStreams (φ : τ → τ) (m : IncomingStreamsMap τ) : IncomingStreamsMap τ :=
  { m with streams := mapValues (mapEntry φ) m.streams }

theorem lookupStream_mapStreams (id : StreamID) :
    (m.mapStreams φ).lookupStream id = .opens ↔ m.lookupStream id = .opens := by
  unfold lookupStream
  simp only [mapStreams, lookup_mapValues]
  split_ifs
  · simp
  · cases m.streams.lookup id <;> simp
  · simp

theorem openFrom_mapStreams (hnew : ∀ id, φ (newStream id) = newStream id) (n : Nat)
    (newNum : StreamID) : ∀ m : IncomingStreamsMap τ,
      openFrom newStream (m.mapStreams φ) newNum n = (openFrom newStream m newNum n).mapStreams φ := by
  induction n generalizing newNum with
  | zero => exact fun _ => rfl
  | succ n ih =>
    intro m
    have hnext : openNext newStream (m.mapStreams φ) newNum =
        (openNext newStream m newNum).mapStreams φ := by
      simp only [openNext, mapStreams, mapValues_insert, mapEntry, hnew]
    rw [openFrom, openFrom, hnext, ih]

theorem openStreams_mapStreams (hnew : ∀ id, φ (newStream id) = newStream id) (id : StreamID) :
    ((m.mapStreams φ).openStreams newStream id).2 = (m.openStreams newStream id).2.mapStreams φ := by
  have hopen := openFrom_mapStreams hnew (rounds m.nextStreamToOpen id) m.nextStreamToOpen m
  simp only [openStreams]
  exact congrArg (fun m : IncomingStreamsMap τ => { m with nextStreamToOpen := id + 4 }) hopen

theorem deleteStream_mapStreams (id : StreamID) :
    (m.mapStreams φ).deleteStream id =
      (m.deleteStream id).map (Prod.map (mapStreams φ) fun frame => frame) := by
  unfold deleteStream
  simp only [mapStreams, lookup_mapValues]
  cases hentry : m.streams.lookup id with
  | none => rfl
  | some entry =>
    have hkeys : ((mapValues (mapEntry φ) m.streams).erase id).keys.length =
        (m.streams.erase id).keys.length := by
      rw [← mapValues_erase, keys_mapValues]
    simp only [Option.map_some, hkeys, mapEntry]
    split_ifs <;> simp [Except.map, mapStreams, mapEntry]

theorem acceptStream_mapStreams :
    (m.mapStreams φ).acceptStream.2.1 = m.acceptStream.2.1.mapStreams φ := by
  have hlookup : (m.mapStreams φ).streams.lookup (m.mapStreams φ).nextStreamToAccept =
      (m.streams.lookup m.nextStreamToAccept).map (mapEntry φ) := lookup_mapValues _
  simp only [acceptStream, hlookup, apply_ite fun r : Accepted τ × IncomingStreamsMap τ ×
    Option MaxStreamsFrame => r.2.1]
  refine Outcome.ite_map rfl ?_
  cases m.streams.lookup m.nextStreamToAccept with
  | none => rfl
  | some entry =>
    have hdelete := deleteStream_mapStreams (φ := φ)
      (m := { m with nextStreamToAccept := m.nextStreamToAccept + 4 }) m.nextStreamToAccept
    simp only [Option.map_some, apply_ite fun r : Accepted τ × IncomingStreamsMap τ ×
      Option MaxStreamsFrame => r.2.1]
    refine Outcome.ite_map ?_ rfl
    simp only [mapStreams] at hdelete ⊢
    rw [hdelete]
    cases { m with nextStreamToAccept := m.nextStreamToAccept + 4 }.deleteStream
      m.nextStreamToAccept <;> rfl

theorem closeWithError_mapStreams {close : τ → τ}
    (hclose : ∀ entry ∈ values m.streams, φ (close entry.stream) = close (φ entry.stream)) :
    (m.mapStreams φ).closeWithError close = (m.closeWithError close).mapStreams φ := by
  simp only [closeWithError, mapStreams, mapValues_mapValues]
  congr 1
  refine mapValues_congr fun entry hentry => ?_
  simp only [Function.comp_apply, mapEntry, hclose entry hentry]

/-- All streams of the map have the property. -/
def All (P : τ → Prop) (m : IncomingStreamsMap τ) : Prop :=
  AllValues (fun entry : IncomingStreamEntry τ => P entry.stream) m.streams

end IncomingStreamsMap

/-! ## all streams -/

namespace StreamsMap

variable {m : StreamsMap τ} {newStream : StreamID → Bool → τ} {supports : Bool}

/-- Every stream is changed. -/
def mapStreams (φ : τ → τ) (m : StreamsMap τ) : StreamsMap τ :=
  { m with
    outgoingBidiStreams := m.outgoingBidiStreams.mapStreams φ
    outgoingUniStreams := m.outgoingUniStreams.mapStreams φ
    incomingBidiStreams := m.incomingBidiStreams.mapStreams φ }

@[simp] theorem outgoing_mapStreams (t : StreamType) :
    (m.mapStreams φ).outgoing t = (m.outgoing t).mapStreams φ := by
  cases t <;> rfl

theorem forall_mem_streams : (∀ str ∈ m.streams, P str) ↔
    (∀ str ∈ values m.outgoingBidiStreams.streams, P str) ∧
      (∀ str ∈ values m.outgoingUniStreams.streams, P str) ∧
      ∀ entry ∈ values m.incomingBidiStreams.streams, P entry.stream := by
  simp only [streams, List.forall_mem_append, List.forall_mem_map, and_assoc]

@[simp] theorem supports_setOutgoing (t : StreamType) (streams : OutgoingStreamsMap τ) :
    (m.setOutgoing t streams).supportsResetStreamAt = m.supportsResetStreamAt := by
  cases t <;> rfl

theorem setOutgoing_mapStreams (t : StreamType) (streams : OutgoingStreamsMap τ) :
    (m.mapStreams φ).setOutgoing t (streams.mapStreams φ) =
      (m.setOutgoing t streams).mapStreams φ := by
  cases t <;> rfl

section

variable (hnew : ∀ id, φ (newStream id m.supportsResetStreamAt) = newStream id m.supportsResetStreamAt)

include hnew

theorem openStream_mapStreams (t : StreamType) :
    ((m.mapStreams φ).openStream newStream t).2 = (m.openStream newStream t).2.mapStreams φ := by
  have hopen := OutgoingStreamsMap.tryOpenStream_mapStreams (m := m.outgoing t) hnew
  simp only [openStream, outgoing_mapStreams]
  rw [apply_ite Prod.snd, apply_ite Prod.snd]
  refine Outcome.ite_map rfl ?_
  rw [← setOutgoing_mapStreams]
  exact congrArg (fun r => (m.mapStreams φ).setOutgoing t r.2) hopen

theorem openStreamSync_mapStreams (t : StreamType) (cancelled : Bool) (waitChan : Nat) :
    ((m.mapStreams φ).openStreamSync newStream t cancelled waitChan).2 =
      (m.openStreamSync newStream t cancelled waitChan).2.mapStreams φ := by
  have hopen := OutgoingStreamsMap.openStreamSync_mapStreams (m := m.outgoing t) hnew cancelled waitChan
  simp only [openStreamSync, outgoing_mapStreams]
  rw [apply_ite Prod.snd, apply_ite Prod.snd]
  refine Outcome.ite_map rfl ?_
  rw [← setOutgoing_mapStreams]
  exact congrArg (fun r => (m.mapStreams φ).setOutgoing t r.2) hopen

end

theorem cancelOpen_mapStreams (t : StreamType) (waitChan : Nat) :
    (m.mapStreams φ).cancelOpen t waitChan = (m.cancelOpen t waitChan).mapStreams φ := by
  cases t <;> rfl

theorem resumeOpen_mapStreams
    (hnew : ∀ id, φ (newStream id m.supportsResetStreamAt) = newStream id m.supportsResetStreamAt) (t : StreamType) :
    (m.mapStreams φ).resumeOpen newStream t = (m.resumeOpen newStream t).map (mapStreams φ) := by
  have hopen := OutgoingStreamsMap.resumeOpen_mapStreams (m := m.outgoing t) hnew
  simp only [resumeOpen, outgoing_mapStreams]
  refine (congrArg (· >>= _) hopen).trans ?_
  cases (m.outgoing t).resumeOpen (newStream · m.supportsResetStreamAt) with
  | error e => rfl
  | ok r => exact congrArg Except.ok (setOutgoing_mapStreams t r.2.1)

variable {id : StreamID}

/-- The stream is found, or the peer is not allowed to open it. -/
theorem getOrOpenStream_of_ne (h : m.incomingBidiStreams.lookupStream id ≠ .opens) :
    m.getOrOpenStream newStream id = m := by
  unfold getOrOpenStream
  split
  · next hopens => exact absurd hopens h
  · rfl

theorem getOrOpenStream_of_opens (h : m.incomingBidiStreams.lookupStream id = .opens) :
    m.getOrOpenStream newStream id = { m with
      incomingBidiStreams :=
        (m.incomingBidiStreams.openStreams (newStream · m.supportsResetStreamAt) id).2 } := by
  rw [getOrOpenStream, h]

theorem getOrOpenStream_mapStreams
    (hnew : ∀ id, φ (newStream id m.supportsResetStreamAt) = newStream id m.supportsResetStreamAt) (id : StreamID) :
    (m.mapStreams φ).getOrOpenStream newStream id =
      (m.getOrOpenStream newStream id).mapStreams φ := by
  have hopen := IncomingStreamsMap.openStreams_mapStreams (m := m.incomingBidiStreams) hnew id
  have hiff := IncomingStreamsMap.lookupStream_mapStreams (φ := φ) (m := m.incomingBidiStreams) id
  by_cases hopens : m.incomingBidiStreams.lookupStream id = .opens
  · rw [getOrOpenStream_of_opens hopens, getOrOpenStream_of_opens (hiff.mpr hopens)]
    exact congrArg (fun streams => { m.mapStreams φ with incomingBidiStreams := streams }) hopen
  · rw [getOrOpenStream_of_ne hopens, getOrOpenStream_of_ne (fun h => hopens (hiff.mp h))]

theorem acceptStream_mapStreams : (m.mapStreams φ).acceptStream = m.acceptStream.mapStreams φ := by
  have haccept := IncomingStreamsMap.acceptStream_mapStreams (φ := φ) (m := m.incomingBidiStreams)
  unfold acceptStream
  exact Outcome.ite_map rfl
    (congrArg (fun streams => { m.mapStreams φ with incomingBidiStreams := streams }) haccept)

theorem lookup_mapStreams (id : StreamID) : (m.mapStreams φ).lookup id = (m.lookup id).map φ := by
  have hplace : (m.mapStreams φ).place id = m.place id := rfl
  unfold lookup
  rw [hplace]
  cases m.place id with
  | outgoing t =>
    simp only [outgoing_mapStreams]
    exact lookup_mapValues id
  | incoming =>
    have hlookup : (m.mapStreams φ).incomingBidiStreams.streams.lookup id = _ := lookup_mapValues id
    simp only [hlookup, Option.map_map]
    rfl
  | elsewhere => rfl

theorem update_mapStreams (id : StreamID) (str : τ) :
    (m.mapStreams φ).update id (φ str) = (m.update id str).mapStreams φ := by
  have hplace : (m.mapStreams φ).place id = m.place id := rfl
  unfold update
  rw [hplace]
  cases m.place id with
  | outgoing t =>
    simp only [outgoing_mapStreams]
    rw [← setOutgoing_mapStreams]
    simp only [OutgoingStreamsMap.mapStreams, mapValues_setValue]
  | incoming =>
    have hlookup : (m.mapStreams φ).incomingBidiStreams.streams.lookup id = _ := lookup_mapValues id
    simp only [hlookup]
    cases m.incomingBidiStreams.streams.lookup id with
    | none => rfl
    | some entry =>
      simp only [Option.map_some, mapStreams, IncomingStreamsMap.mapStreams, mapValues_setValue]
      rfl
  | elsewhere => rfl

/-- The stream is the one that is there already. -/
theorem update_of_lookup {str : τ} (h : m.lookup id = some str) : m.update id str = m := by
  unfold lookup at h
  unfold update
  cases hplace : m.place id with
  | outgoing t =>
    rw [hplace] at h
    simp only [setValue_of_lookup h]
    cases t <;> rfl
  | incoming =>
    rw [hplace] at h
    obtain ⟨entry, hentry, rfl⟩ := Option.map_eq_some_iff.mp h
    simp only [hentry, setValue_of_lookup hentry]
  | elsewhere => rfl

theorem deleteStream_mapStreams (id : StreamID) :
    (m.mapStreams φ).deleteStream id = (m.deleteStream id).mapStreams φ := by
  have hplace : (m.mapStreams φ).place id = m.place id := rfl
  unfold deleteStream
  rw [hplace]
  cases m.place id with
  | outgoing t =>
    simp only [outgoing_mapStreams, OutgoingStreamsMap.deleteStream_mapStreams]
    cases (m.outgoing t).deleteStream id with
    | error e => rfl
    | ok streams => exact setOutgoing_mapStreams t streams
  | incoming =>
    have hdelete : (m.mapStreams φ).incomingBidiStreams.deleteStream id = _ :=
      IncomingStreamsMap.deleteStream_mapStreams (m := m.incomingBidiStreams) id
    simp only [hdelete]
    cases m.incomingBidiStreams.deleteStream id <;> rfl
  | elsewhere => rfl

theorem handleMaxStreamsFrame_mapStreams (f : MaxStreamsFrame) :
    (m.mapStreams φ).handleMaxStreamsFrame f = (m.handleMaxStreamsFrame f).mapStreams φ := by
  have hmax := OutgoingStreamsMap.setMaxStream_mapStreams (φ := φ) (m := m.outgoing f.type)
    (StreamNum.streamID f.maxStreamNum f.type m.perspective)
  rw [handleMaxStreamsFrame, handleMaxStreamsFrame, outgoing_mapStreams, ← setOutgoing_mapStreams]
  exact congrArg ((m.mapStreams φ).setOutgoing f.type) hmax

theorem handleTransportParameters_mapStreams [OutgoingStream τ] (p : TransportParameters)
    (henable : ∀ str : τ, φ (OutgoingStream.enableResetStreamAt str) =
      OutgoingStream.enableResetStreamAt (φ str))
    (hupdate : ∀ (str : τ) (limit : Nat), φ (OutgoingStream.updateSendWindow str limit) =
      OutgoingStream.updateSendWindow (φ str) limit) :
    (m.mapStreams φ).handleTransportParameters p =
      (m.handleTransportParameters p).mapStreams φ := by
  simp only [handleTransportParameters, mapStreams,
    OutgoingStreamsMap.enableResetStreamAt_mapStreams henable,
    OutgoingStreamsMap.updateSendWindow_mapStreams (hupdate · _),
    OutgoingStreamsMap.setMaxStream_mapStreams]

theorem closeWithError_mapStreams [OutgoingStream τ]
    (hclose : ∀ str ∈ m.streams, φ (OutgoingStream.closeForShutdown str) =
      OutgoingStream.closeForShutdown (φ str)) :
    (m.mapStreams φ).closeWithError = m.closeWithError.mapStreams φ := by
  obtain ⟨hbidi, huni, hincoming⟩ := forall_mem_streams.mp hclose
  simp only [closeWithError, mapStreams, OutgoingStreamsMap.closeWithError_mapStreams hbidi,
    OutgoingStreamsMap.closeWithError_mapStreams huni,
    IncomingStreamsMap.closeWithError_mapStreams hincoming]

/-- The function changes none of the streams. -/
theorem mapStreams_eq_self (h : ∀ str ∈ m.streams, φ str = str) : m.mapStreams φ = m := by
  obtain ⟨hbidi, huni, hincoming⟩ := forall_mem_streams.mp h
  have hentries : mapValues (IncomingStreamsMap.mapEntry φ) m.incomingBidiStreams.streams = _ :=
    mapValues_eq_self fun entry hentry =>
      congrArg (fun str => { entry with stream := str }) (hincoming entry hentry)
  simp only [mapStreams, OutgoingStreamsMap.mapStreams, IncomingStreamsMap.mapStreams, hentries,
    mapValues_eq_self hbidi, mapValues_eq_self huni]

/-! ### the streams have a property -/

/-- All streams of the maps have the property, and it is known whether the peer supports
RESET_STREAM_AT. -/
structure All (P : τ → Prop) (supports : Bool) (m : StreamsMap τ) : Prop where
  supports : m.supportsResetStreamAt = supports
  outgoing : ∀ t, AllValues P (m.outgoing t).streams
  incoming : m.incomingBidiStreams.All P

theorem all_iff :
    m.All P supports ↔ m.supportsResetStreamAt = supports ∧ ∀ str ∈ m.streams, P str := by
  simp only [forall_mem_streams, ← allValues_iff]
  constructor
  · exact fun h => ⟨h.supports, h.outgoing .bidi, h.outgoing .uni, h.incoming⟩
  · rintro ⟨hsupports, hbidi, huni, hincoming⟩
    refine ⟨hsupports, fun t => ?_, hincoming⟩
    cases t with
    | bidi => exact hbidi
    | uni => exact huni

theorem streams_mapStreams : (m.mapStreams φ).streams = m.streams.map φ := by
  simp only [streams, mapStreams, OutgoingStreamsMap.mapStreams, IncomingStreamsMap.mapStreams,
    values_mapValues, List.map_append, List.map_map]
  rfl

theorem All.lookup (h : m.All P supports) {id : StreamID} {str : τ} (hlookup : m.lookup id = some str) : P str := by
  unfold StreamsMap.lookup at hlookup
  split at hlookup
  · exact h.outgoing _ id str hlookup
  · obtain ⟨entry, hentry, rfl⟩ := Option.map_eq_some_iff.mp hlookup
    exact h.incoming id entry hentry
  · cases hlookup

end StreamsMap

end MoqQuic.Quic
