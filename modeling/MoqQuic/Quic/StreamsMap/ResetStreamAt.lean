import MoqQuic.Quic.SendStream.Unreliable
import MoqQuic.Quic.StreamsMap.Streamwise

/-!
# MoqQuic.Quic.StreamsMap.ResetStreamAt

When RESET_STREAM_AT is used.

A run opens streams before and after the transport parameters of the peer are handled, and calls the
streams in any order. A stream that leaves the maps may still be used by the application.
-/

namespace MoqQuic.Quic

open Parse Machine

instance : OutgoingStream SendLink where
  updateSendWindow l limit := { l with stream := l.stream.updateSendWindow limit }
  enableResetStreamAt l := { l with stream := l.stream.enableResetStreamAt }
  closeForShutdown l := { l with stream := l.stream.closeForShutdown }

structure StreamsRun where
  map : StreamsMap SendLink
  /-- the streams that left the maps -/
  detached : List SendLink := []

/-- The ways in which a call panics. -/
inductive StreamsPanic where
  | stream (panic : StreamPanic)
  | opening (panic : OpenStreamPanic)
  deriving DecidableEq, Repr

/-- The calls. A stream gets the send window of its type at that time, and the flow controller of the
connection. -/
inductive StreamsOp where
  | openStream (t : StreamType) (window : Nat) (connection : ConnectionFlowController)
  | openStreamSync (t : StreamType) (cancelled : Bool) (waitChan window : Nat)
      (connection : ConnectionFlowController)
  | cancelOpen (t : StreamType) (waitChan : Nat)
  | resumeOpen (t : StreamType) (window : Nat) (connection : ConnectionFlowController)
  | getOrOpenStream (id : StreamID) (window : Nat) (connection : ConnectionFlowController)
  | acceptStream
  | deleteStream (id : StreamID)
  | handleMaxStreamsFrame (f : MaxStreamsFrame)
  | handleTransportParameters
  | closeWithError
  | resetFor0RTT
  | useResetMaps
  /-- a call of a stream in the maps, by its ID -/
  | onStream (id : StreamID) (op : SendLink.Op)
  /-- a call of a stream that left the maps, by its position -/
  | onDetached (i : Nat) (op : SendLink.Op)
  deriving DecidableEq, Repr

namespace StreamsRun

def new (maxIncomingBidiStreams : Nat) (perspective : Perspective) : StreamsRun where
  map := newStreamsMap maxIncomingBidiStreams perspective

def newLink (window : Nat) (connection : ConnectionFlowController) (id : StreamID)
    (supportsResetStreamAt : Bool) : SendLink :=
  SendLink.new id.toNat window connection supportsResetStreamAt

/-- The stream, if it is not in the maps any more. -/
def removed (before after : StreamsMap SendLink) (id : StreamID) : List SendLink :=
  if (after.lookup id).isNone then (before.lookup id).toList else []

/-- A call of a stream. Only the map calls `enableResetStreamAt`. -/
def call (l : SendLink) (op : SendLink.Op) : Except StreamsPanic SendLink :=
  if op = .enableResetStreamAt then .ok l else (l.step op).mapError .stream

/-- A step of a run, in which the peer has the transport parameters `p`. -/
def step (p : TransportParameters) (s : StreamsRun) : StreamsOp → Except StreamsPanic StreamsRun
  | .openStream t window connection =>
    .ok { s with map := (s.map.openStream (newLink window connection) t).2 }
  | .openStreamSync t cancelled waitChan window connection =>
    .ok { s with
      map := (s.map.openStreamSync (newLink window connection) t cancelled waitChan).2 }
  | .cancelOpen t waitChan => .ok { s with map := s.map.cancelOpen t waitChan }
  | .resumeOpen t window connection => do
    return { s with map := ← (s.map.resumeOpen (newLink window connection) t).mapError .opening }
  | .getOrOpenStream id window connection =>
    .ok { s with map := s.map.getOrOpenStream (newLink window connection) id }
  | .acceptStream =>
    let map := s.map.acceptStream
    .ok { s with
      map := map
      detached := s.detached ++ removed s.map map s.map.incomingBidiStreams.nextStreamToAccept }
  | .deleteStream id =>
    let map := s.map.deleteStream id
    .ok { s with map := map, detached := s.detached ++ removed s.map map id }
  | .handleMaxStreamsFrame f => .ok { s with map := s.map.handleMaxStreamsFrame f }
  | .handleTransportParameters => .ok { s with map := s.map.handleTransportParameters p }
  | .closeWithError => .ok { s with map := s.map.closeWithError }
  | .resetFor0RTT =>
    .ok { s with
      map := s.map.resetFor0RTT
      detached := s.detached ++ s.map.closeWithError.streams }
  | .useResetMaps => .ok { s with map := s.map.useResetMaps }
  | .onStream id op =>
    match s.map.lookup id with
    | none => .ok s
    | some l => do return { s with map := s.map.update id (← call l op) }
  | .onDetached i op =>
    match s.detached[i]? with
    | none => .ok s
    | some l => do return { s with detached := s.detached.set i (← call l op) }

/-- All streams that were opened. -/
def links (s : StreamsRun) : List SendLink := s.map.streams ++ s.detached

def emitted (s : StreamsRun) : List (List StreamFrame × List ResetStreamFrame) :=
  s.links.map fun l => (l.sent, l.resets)

/-- The transport parameters of a peer that does not support RESET_STREAM_AT are handled while we
have no stream open. -/
def Negotiates (p : TransportParameters) (s : StreamsRun) (op : StreamsOp) : Prop :=
  op = .handleTransportParameters → p.enableResetStreamAt = false →
    s.map.outgoingBidiStreams.streams.keys = [] ∧ s.map.outgoingUniStreams.streams.keys = []

instance (p : TransportParameters) (s : StreamsRun) (op : StreamsOp) :
    Decidable (Negotiates p s op) := by
  unfold Negotiates
  infer_instance

/-- The step is not a call of `SetReliableBoundary`. -/
def keeps : StreamsOp → Bool
  | .onStream _ .setReliableBoundary => false
  | .onDetached _ .setReliableBoundary => false
  | _ => true

/-! ## a stream that was opened before -/

/-- The stream is opened before the parameters of this connection are known, and reset afterwards. -/
def earlyStream : List StreamsOp :=
  [.handleTransportParameters,
    .openStream .bidi 100 { ConnectionFlowController.new 0 0 with sendWindow := 100 },
    .handleTransportParameters, .onStream 0 (.write [1, 2, 3] false false),
    .onStream 0 .setReliableBoundary, .onStream 0 (.cancelWrite 7), .onStream 0 .getControlFrame]

/-- A peer that does not support RESET_STREAM_AT. -/
def plainPeer : TransportParameters where
  initialMaxStreamDataBidiRemote := 100
  initialMaxStreamDataUni := 100
  maxBidiStreamNum := 10
  maxUniStreamNum := 10
  enableResetStreamAt := false

theorem earlyStream_resetStreamAt :
    ∃ s, earlyStream.foldlM (step plainPeer) (new 10 .client) = .ok s ∧
      s.emitted = [([], [{ streamID := 0, errorCode := 7, finalSize := 3, reliableSize := 3 }])] :=
  ⟨_, rfl, by decide⟩

/-! ## forgetting the boundaries -/

variable {p : TransportParameters} {s s' : StreamsRun} {l l' : SendLink} {op : StreamsOp}

/-- The run without the boundaries of its streams. -/
def forget (s : StreamsRun) : StreamsRun where
  map := s.map.mapStreams SendLink.forget
  detached := s.detached.map SendLink.forget

/-- No stream uses RESET_STREAM_AT. -/
structure Plain (s : StreamsRun) : Prop where
  map : s.map.All SendLink.Plain false
  detached : ∀ l ∈ s.detached, l.Plain

theorem call_forget (hl : l.Plain) {op : SendLink.Op} (hop : op ≠ .setReliableBoundary) :
    call l.forget op = (call l op).map SendLink.forget := by
  unfold call
  by_cases henable : op = .enableResetStreamAt
  · rw [if_pos henable, if_pos henable]
    rfl
  · rw [if_neg henable, if_neg henable, SendLink.step_forget hl.supports hl.sound.buffered hop henable]
    cases l.step op <;> rfl

theorem plain_call (hl : l.Plain) {op : SendLink.Op} (hcall : call l op = .ok l') : l'.Plain := by
  unfold call at hcall
  split at hcall
  · cases hcall
    exact hl
  · next henable =>
    exact hl.step _ henable (Outcome.mapError_eq_ok.mp hcall)

/-! ## changing the streams -/

section

variable {φ : SendLink → SendLink}

/-- Every stream is changed. -/
def mapLinks (φ : SendLink → SendLink) (s : StreamsRun) : StreamsRun where
  map := s.map.mapStreams φ
  detached := s.detached.map φ

theorem links_mapLinks : (s.mapLinks φ).links = s.links.map φ := by
  rw [links, links, List.map_append, mapLinks, StreamsMap.streams_mapStreams]

theorem removed_mapStreams (before after : StreamsMap SendLink) (id : StreamID) :
    removed (before.mapStreams φ) (after.mapStreams φ) id = (removed before after id).map φ := by
  unfold removed
  rw [StreamsMap.lookup_mapStreams, StreamsMap.lookup_mapStreams, Option.isNone_map]
  split
  · cases before.lookup id <;> rfl
  · rfl

variable {map map' : StreamsMap SendLink}

/-- A step that changes the maps only. -/
theorem ok_mapLinks (h : map' = map.mapStreams φ) :
    (.ok { s.mapLinks φ with map := map' } : Except StreamsPanic StreamsRun) =
      (.ok { s with map := map } : Except StreamsPanic StreamsRun).map (mapLinks φ) := by
  rw [h]
  rfl

/-- A step that also takes streams out of the maps. -/
theorem ok_mapLinks_append {detached detached' : List SendLink}
    (h : map' = map.mapStreams φ) (hd : detached' = detached.map φ) :
    (.ok { map := map', detached := (s.mapLinks φ).detached ++ detached' } :
        Except StreamsPanic StreamsRun) =
      (.ok { map := map, detached := s.detached ++ detached } :
        Except StreamsPanic StreamsRun).map (mapLinks φ) := by
  rw [h, hd, mapLinks, ← List.map_append]
  rfl

/-- **A step does not look into the streams**: a run whose streams are changed by a function takes
the step likewise, if new streams are not changed and the calls of the streams take the change. -/
theorem step_mapLinks (hs : s.Plain)
    (hnew : ∀ window connection id,
      φ (newLink window connection id false) = newLink window connection id false)
    (hclose : ∀ l : SendLink, l.Plain →
      φ (OutgoingStream.closeForShutdown l) = OutgoingStream.closeForShutdown (φ l))
    (hcall : ∀ op', (∃ id, op = .onStream id op') ∨ (∃ i, op = .onDetached i op') →
      ∀ l : SendLink, l.Plain → call (φ l) op' = (call l op').map φ)
    (hparams : op = .handleTransportParameters → (s.map.mapStreams φ).handleTransportParameters p =
      (s.map.handleTransportParameters p).mapStreams φ) :
    (s.mapLinks φ).step p op = (s.step p op).map (mapLinks φ) := by
  have hnew (window : Nat) (connection : ConnectionFlowController) (id : StreamID) :
      φ (newLink window connection id s.map.supportsResetStreamAt) =
        newLink window connection id s.map.supportsResetStreamAt := by
    rw [hs.map.supports]
    exact hnew window connection id
  have hclosed := StreamsMap.closeWithError_mapStreams fun l hl =>
    hclose l ((StreamsMap.all_iff.mp hs.map).2 l hl)
  have hmap : (s.mapLinks φ).map = s.map.mapStreams φ := rfl
  have hdetached : (s.mapLinks φ).detached = s.detached.map φ := rfl
  cases op with
  | openStream t window connection =>
    exact ok_mapLinks (StreamsMap.openStream_mapStreams (hnew window connection) t)
  | openStreamSync t cancelled waitChan window connection =>
    exact ok_mapLinks
      (StreamsMap.openStreamSync_mapStreams (hnew window connection) t cancelled waitChan)
  | cancelOpen t waitChan => exact ok_mapLinks (StreamsMap.cancelOpen_mapStreams t waitChan)
  | resumeOpen t window connection =>
    have h := StreamsMap.resumeOpen_mapStreams (m := s.map) (hnew window connection) t
    simp only [step, hmap, h]
    cases s.map.resumeOpen (newLink window connection) t <;> rfl
  | getOrOpenStream id window connection =>
    exact ok_mapLinks (StreamsMap.getOrOpenStream_mapStreams (hnew window connection) id)
  | acceptStream =>
    have h := StreamsMap.acceptStream_mapStreams (φ := φ) (m := s.map)
    refine ok_mapLinks_append h ?_
    rw [hmap, h]
    exact removed_mapStreams s.map s.map.acceptStream _
  | deleteStream id =>
    have h := StreamsMap.deleteStream_mapStreams (φ := φ) (m := s.map) id
    refine ok_mapLinks_append h ?_
    rw [hmap, h]
    exact removed_mapStreams s.map (s.map.deleteStream id) id
  | handleMaxStreamsFrame f => exact ok_mapLinks (StreamsMap.handleMaxStreamsFrame_mapStreams f)
  | handleTransportParameters => exact ok_mapLinks (hparams rfl)
  | closeWithError => exact ok_mapLinks hclosed
  | resetFor0RTT =>
    refine ok_mapLinks_append rfl ?_
    rw [hmap, hclosed]
    exact StreamsMap.streams_mapStreams
  | useResetMaps => rfl
  | onStream id op =>
    simp only [step, hmap, StreamsMap.lookup_mapStreams]
    cases hlookup : s.map.lookup id with
    | none => rfl
    | some l =>
      simp only [Option.map_some, hcall op (.inl ⟨id, rfl⟩) l (hs.map.lookup hlookup)]
      cases call l op with
      | error e => rfl
      | ok l' => exact ok_mapLinks (StreamsMap.update_mapStreams id l')
  | onDetached i op =>
    simp only [step, hdetached, List.getElem?_map]
    cases hl : s.detached[i]? with
    | none => rfl
    | some l =>
      have hplain := hs.detached l (List.mem_of_getElem? hl)
      simp only [Option.map_some, hcall op (.inr ⟨i, rfl⟩) l hplain]
      cases call l op with
      | error e => rfl
      | ok l' =>
        refine congrArg (fun detached => Except.ok { s.mapLinks φ with detached := detached }) ?_
        exact List.map_set.symm

end

theorem step_forget (hs : s.Plain) (hkeeps : keeps op = true) :
    s.forget.step p op = (s.step p op).map forget := by
  refine step_mapLinks hs (fun _ _ _ => rfl) (fun l _ => ?_) (fun op' hop l hl => ?_) fun _ => ?_
  · exact congrArg (fun stream => { l with stream := stream })
      (SendStream.closeForShutdown_forget l.stream).symm
  · refine call_forget hl ?_
    rintro rfl
    obtain ⟨_, rfl⟩ | ⟨_, rfl⟩ := hop <;> cases hkeeps
  · exact StreamsMap.handleTransportParameters_mapStreams p (fun _ => rfl) (fun _ _ => rfl)

theorem forget_step_of_not_keeps (hkeeps : keeps op = false) (hstep : s.step p op = .ok s') :
    s'.forget = s.forget := by
  cases op with
  | onStream id op =>
    cases op with
    | setReliableBoundary =>
      cases hlookup : s.map.lookup id with
      | none =>
        simp only [step, hlookup] at hstep
        cases hstep
        rfl
      | some l =>
        simp only [step, hlookup] at hstep
        cases hstep
        have hforget : (s.map.mapStreams SendLink.forget).lookup id = some l.forget := by
          rw [StreamsMap.lookup_mapStreams, hlookup]
          rfl
        refine congrArg (fun map => { s.forget with map := map }) ?_
        rw [← StreamsMap.update_mapStreams]
        exact StreamsMap.update_of_lookup hforget
    | _ => cases hkeeps
  | onDetached i op =>
    cases op with
    | setReliableBoundary =>
      cases hl : s.detached[i]? with
      | none =>
        simp only [step, hl] at hstep
        cases hstep
        rfl
      | some l =>
        simp only [step, hl] at hstep
        cases hstep
        have hforget : (s.detached.map SendLink.forget)[i]? = some l.forget := by
          rw [List.getElem?_map, hl]
          rfl
        obtain ⟨hi, hget⟩ := List.getElem?_eq_some_iff.mp hforget
        have hsame := List.set_getElem_self hi
        rw [hget] at hsame
        refine congrArg (fun detached => { s.forget with detached := detached }) ?_
        rw [List.map_set]
        exact hsame
    | _ => cases hkeeps
  | _ => cases hkeeps

/-! ## steps and runs -/

theorem plain_newLink (window : Nat) (connection : ConnectionFlowController) (id : StreamID) :
    (newLink window connection id false).Plain where
  sound := SendLink.sound_new _ _ _ _
  supports := rfl
  resets := by
    rintro r (hr | hr | hr) <;> cases hr

theorem streams_handleTransportParameters (m : StreamsMap SendLink) (t : StreamType) :
    ∃ limit, ((m.handleTransportParameters p).outgoing t).streams =
      mapValues (fun l => OutgoingStream.updateSendWindow (OutgoingStream.enableResetStreamAt l) limit)
        (m.outgoing t).streams := by
  cases t with
  | bidi | uni =>
    exact ⟨_, (OutgoingStreamsMap.streams_setMaxStream _).trans
      (mapValues_mapValues (f := fun l => OutgoingStream.updateSendWindow l _)
        (g := OutgoingStream.enableResetStreamAt))⟩

theorem Plain.handleTransportParameters (hs : s.Plain) (hp : p.enableResetStreamAt = false)
    (hempty : ∀ t, (s.map.outgoing t).streams.keys = []) :
    (s.map.handleTransportParameters p).All SendLink.Plain false := by
  refine ⟨hp, fun t => ?_, hs.map.incoming⟩
  obtain ⟨limit, hstreams⟩ := streams_handleTransportParameters (p := p) s.map t
  have hnil : (s.map.outgoing t).streams = ∅ := AList.ext (List.map_eq_nil_iff.mp (hempty t))
  rw [hstreams, hnil]
  exact allValues_empty

theorem Plain.supports_step (hs : s.Plain) (hp : p.enableResetStreamAt = false)
    (hstep : s.step p op = .ok s') : s'.map.supportsResetStreamAt = false := by
  replace hs := hs.map.supports
  cases op with
  | resumeOpen t window connection =>
    simp only [StreamsRun.step] at hstep
    obtain ⟨map, hresume, hstep⟩ := Outcome.bind_eq_ok.mp hstep
    obtain ⟨r, -, hmap⟩ := Outcome.bind_eq_ok.mp (Outcome.mapError_eq_ok.mp hresume)
    cases hstep
    cases hmap
    simp [hs]
  | onStream id op =>
    simp only [StreamsRun.step] at hstep
    split at hstep
    · cases hstep
      exact hs
    · obtain ⟨l', -, hstep⟩ := Outcome.bind_eq_ok.mp hstep
      cases hstep
      unfold StreamsMap.update
      split <;> (try split) <;> simp [hs]
  | onDetached i op =>
    simp only [StreamsRun.step] at hstep
    split at hstep
    · cases hstep
      exact hs
    · obtain ⟨l', -, hstep⟩ := Outcome.bind_eq_ok.mp hstep
      cases hstep
      exact hs
  | handleTransportParameters =>
    cases hstep
    exact hp
  | deleteStream id =>
    cases hstep
    unfold StreamsMap.deleteStream
    split <;> (try split) <;> simp [hs]
  | getOrOpenStream id window connection =>
    cases hstep
    unfold StreamsMap.getOrOpenStream
    split <;> exact hs
  | _ =>
    cases hstep
    simp [hs, apply_ite StreamsMap.supportsResetStreamAt, apply_ite Prod.snd,
      StreamsMap.openStream, StreamsMap.openStreamSync, StreamsMap.cancelOpen,
      StreamsMap.acceptStream, StreamsMap.handleMaxStreamsFrame, StreamsMap.closeWithError,
      StreamsMap.resetFor0RTT, StreamsMap.initMaps, StreamsMap.useResetMaps]

/-- **A step** keeps the streams plain: the function that changes no plain stream and all others
changes no stream before the step, and so none after it. -/
theorem Plain.step (hs : s.Plain) (hp : p.enableResetStreamAt = false) (hop : Negotiates p s op)
    (hstep : s.step p op = .ok s') : s'.Plain := by
  obtain ⟨φ, hφ⟩ := exists_fixed_iff (plain_newLink 0 (ConnectionFlowController.new 0 0) 0)
  have hfixed {map : StreamsMap SendLink} (h : map.All SendLink.Plain false) :
      map.mapStreams φ = map :=
    StreamsMap.mapStreams_eq_self fun l hl => (hφ l).mpr ((StreamsMap.all_iff.mp h).2 l hl)
  have hself : s.mapLinks φ = s :=
    congrArg₂ StreamsRun.mk (hfixed hs.map)
      ((List.map_congr_left fun l hl => (hφ l).mpr (hs.detached l hl)).trans (List.map_id _))
  have h : (s.mapLinks φ).step p op = (s.step p op).map (mapLinks φ) := by
    refine step_mapLinks hs (fun _ _ _ => (hφ _).mpr (plain_newLink _ _ _)) (fun l hl => ?_)
      (fun op' _ l hl => ?_) fun heq => ?_
    · rw [(hφ l).mpr hl]
      exact (hφ _).mpr (hl.step .closeForShutdown (by decide) rfl)
    · rw [(hφ l).mpr hl]
      cases hcall : call l op' with
      | error e => rfl
      | ok l' => exact congrArg Except.ok ((hφ l').mpr (plain_call hl hcall)).symm
    · rw [hfixed hs.map]
      refine (hfixed (hs.handleTransportParameters hp fun t => ?_)).symm
      cases t with
      | bidi => exact (hop heq hp).1
      | uni => exact (hop heq hp).2
  rw [hself, hstep] at h
  have hlinks : s'.links.map φ = s'.links.map id := by
    rw [← links_mapLinks, ← Except.ok.inj h, List.map_id]
  have hplain (l : SendLink) (hl : l ∈ s'.links) : l.Plain :=
    (hφ l).mp (List.map_inj_left.mp hlinks l hl)
  exact ⟨StreamsMap.all_iff.mpr ⟨hs.supports_step hp hstep,
    fun l hl => hplain l (List.mem_append_left _ hl)⟩,
    fun l hl => hplain l (List.mem_append_right _ hl)⟩

theorem plain_new (maxIncomingBidiStreams : Nat) (perspective : Perspective) :
    (new maxIncomingBidiStreams perspective).Plain := by
  refine ⟨⟨rfl, fun t => ?_, allValues_empty⟩, fun l hl => by cases hl⟩
  cases t <;> exact allValues_empty

theorem Plain.links (hs : s.Plain) : ∀ l ∈ s.links, l.Plain := by
  intro l hl
  obtain hl | hl := List.mem_append.mp hl
  · exact (StreamsMap.all_iff.mp hs.map).2 l hl
  · exact hs.detached l hl

theorem emitted_forget (s : StreamsRun) : s.forget.emitted = s.emitted := by
  have hlinks : s.forget.links = s.links.map SendLink.forget := links_mapLinks
  rw [emitted, emitted, hlinks, List.map_map]
  rfl

/-- A map whose streams all support RESET_STREAM_AT and all do not is empty. -/
theorem keys_eq_nil_of_enabled {streams : AList fun _ : StreamID => SendLink} {limit : Nat}
    (h : AllValues (fun l => l.stream.supportsResetStreamAt = false) (mapValues
      (fun l => OutgoingStream.updateSendWindow (OutgoingStream.enableResetStreamAt l) limit)
      streams)) : streams.keys = [] := by
  refine List.map_eq_nil_iff.mpr (List.eq_nil_iff_forall_not_mem.mpr fun e he => ?_)
  have hlookup := AList.mem_lookup_iff.mpr he
  have hfalse := h e.1 _ ((lookup_mapValues e.1).trans (congrArg _ hlookup))
  cases hfalse

/-- **Exactly those steps** keep the streams plain. -/
theorem Plain.supports_iff (hs : s.Plain) (hp : p.enableResetStreamAt = false)
    (hstep : s.step p op = .ok s') :
    (∀ l ∈ s'.links, l.stream.supportsResetStreamAt = false) ↔ Negotiates p s op := by
  refine ⟨fun h => ?_, fun hop l hl => ((hs.step hp hop hstep).links l hl).supports⟩
  rintro rfl -
  cases hstep
  have hall : (s.map.handleTransportParameters p).All
      (fun l => l.stream.supportsResetStreamAt = false) false :=
    StreamsMap.all_iff.mpr ⟨hp, fun l hl => h l (List.mem_append_left _ hl)⟩
  have hempty (t : StreamType) : (s.map.outgoing t).streams.keys = [] := by
    obtain ⟨limit, hstreams⟩ := streams_handleTransportParameters (p := p) s.map t
    have hvalues := hall.outgoing t
    rw [hstreams] at hvalues
    exact keys_eq_nil_of_enabled hvalues
  exact ⟨hempty .bidi, hempty .uni⟩

/-- **RESET_STREAM_AT is only used when it was negotiated**, in every run that handles the parameters
of a peer without support while no stream is open: a reset with a reliable size is only emitted if
the peer supports it. Otherwise a run without its calls of `SetReliableBoundary` emits the same
frames, and no other step makes a stream believe that the peer supports it. -/
theorem resetStreamAt_negotiated (p : TransportParameters) (maxIncomingBidiStreams : Nat)
    (perspective : Perspective) (ops : List StreamsOp) (s : StreamsRun)
    (hops : EachOk (step p) (Negotiates p) (new maxIncomingBidiStreams perspective) ops)
    (hs : ops.foldlM (step p) (new maxIncomingBidiStreams perspective) = .ok s) :
    (∀ l ∈ s.links, ∀ f ∈ l.resets, f.reliableSize > 0 → p.enableResetStreamAt = true) ∧
    (p.enableResetStreamAt = false →
      (∃ s', (ops.filter keeps).foldlM (step p) (new maxIncomingBidiStreams perspective) = .ok s' ∧
        s'.emitted = s.emitted) ∧
      ∀ op s', s.step p op = .ok s' →
        ((∀ l ∈ s'.links, l.stream.supportsResetStreamAt = false) ↔ Negotiates p s op)) := by
  have hnew := plain_new maxIncomingBidiStreams perspective
  have hplain (hp : p.enableResetStreamAt = false) : s.Plain := by
    have hreaches := reaches_foldlM ops hops hs .refl
    exact hreaches.invariant (I := Plain) hnew fun s op s' hs hop => hs.step hp hop
  refine ⟨fun l hl f hf hsize => ?_, fun hp => ⟨⟨s.forget, ?_, emitted_forget s⟩, ?_⟩⟩
  · cases hp : p.enableResetStreamAt with
    | true => rfl
    | false =>
      have hzero := ((hplain hp).links l hl).resets f (.inl hf)
      rw [hzero] at hsize
      cases hsize
  · refine foldlM_filter (I := Plain) (f := forget) ?_ ?_ ?_ ops hnew hops hs
    · exact fun s op s' hs hop => hs.step hp hop
    · exact fun s op hs hkeep => step_forget hs hkeep
    · exact fun s op s' => forget_step_of_not_keeps
  · exact fun op s' hstep => (hplain hp).supports_iff hp hstep

/-- A stream is opened once the parameters are known, and reset. -/
def lateStream : List StreamsOp :=
  [.handleTransportParameters,
    .openStream .bidi 100 { ConnectionFlowController.new 0 0 with sendWindow := 100 },
    .onStream 0 (.write [1, 2, 3] false false), .onStream 0 .setReliableBoundary,
    .onStream 0 (.cancelWrite 7), .onStream 0 .getControlFrame]

theorem lateStream_negotiated :
    ∃ s, lateStream.foldlM (step plainPeer) (new 10 .client) = .ok s ∧
      s.emitted = [([], [{ streamID := 0, errorCode := 7, finalSize := 0, reliableSize := 0 }])] ∧
      ∃ s', (lateStream.filter keeps).foldlM (step plainPeer) (new 10 .client) = .ok s' ∧
        s'.emitted = s.emitted :=
  ⟨_, rfl, by decide,
    ((resetStreamAt_negotiated plainPeer 10 .client lateStream _ (by decide) rfl).2 rfl).1⟩

end StreamsRun

end MoqQuic.Quic
