import MoqQuic.Lib.Machine
import MoqQuic.Wire.Message

/-!
# MoqQuic.Moqt.Relay

The relay: `relayhandler.go`, `relaystream.go`, `streamsmap.go` and the namespace
table of `sessionmanager.go`.

A session is named by its `Id`.  Each session has one goroutine that serves its
control stream, a message at a time, and one that accepts its data streams; relay
streams are shared between sessions, so they live in a store and are referred to
by their index in it.  The machine `step` interleaves the goroutines: a step ends
where another goroutine can see its effect, that is where a lock is released or a
message is written.  `SendSubscribe` is one step, since nothing can answer the
`SUBSCRIBE` before it is written.

Two things are random in the source and are arguments of the actions here: the
order of a `range` over a map (`pick`) and the subscribe id that `SendSubscribe`
draws.  An action that is not enabled changes nothing.
-/

namespace MoqQuic.Moqt

open Wire

/-! ## `StreamsMap` -/

/-- `StreamsMap`: streams by subscribe id. -/
abbrev StreamsMap (T : Type) : Type := AList fun _ : Nat => T

namespace StreamsMap

variable {T : Type}

/-- The entries whose stream has this stream id. -/
def named (streams : StreamsMap T) (getStreamID : T → Bytes) (streamid : Bytes) :
    List (Sigma fun _ : Nat => T) :=
  streams.entries.filter fun e => getStreamID e.2 = streamid

/-- The entry that a `range` over the map returns. -/
def find (streams : StreamsMap T) (getStreamID : T → Bytes) (streamid : Bytes) (pick : Nat) :
    Option (Sigma fun _ : Nat => T) :=
  (streams.named getStreamID streamid)[pick % (streams.named getStreamID streamid).length]?

def getSubID (streams : StreamsMap T) (getStreamID : T → Bytes) (streamid : Bytes) (pick : Nat) :
    Option Nat :=
  (streams.find getStreamID streamid pick).map Sigma.fst

def streamIDGetStream (streams : StreamsMap T) (getStreamID : T → Bytes) (streamid : Bytes)
    (pick : Nat) : Option T :=
  (streams.find getStreamID streamid pick).map Sigma.snd

def subIDGetStream (streams : StreamsMap T) (subid : Nat) : Option T := streams.lookup subid

def addStream (streams : StreamsMap T) (subid : Nat) (os : T) : StreamsMap T :=
  streams.insert subid os

end StreamsMap

/-! ## relay streams -/

structure RelayStream (H : Type) where
  subID : Nat
  streamID : Bytes
  /-- the session whose `IncomingStreams` the field `Map` points to -/
  publisher : H
  /-- the `SUBSCRIBE` the stream was opened with, as it was written upstream -/
  request : Subscribe
  subscribers : List H := []

namespace RelayStream

variable {H : Type} [DecidableEq H]

def newRelayStream (subid : Nat) (id : Bytes) (publisher : H) (request : Subscribe) :
    RelayStream H :=
  { subID := subid, streamID := id, publisher := publisher, request := request }

def addSubscriber (rs : RelayStream H) (handler : H) : RelayStream H :=
  { rs with subscribers := rs.subscribers.insert handler }

def removeSubscriber (rs : RelayStream H) (handler : H) : RelayStream H :=
  { rs with subscribers := rs.subscribers.filter (· ≠ handler) }

end RelayStream

/-- A data stream that `DoHandle` has matched with a relay stream. -/
structure DataStream (H : Type) where
  publisher : H
  subID : Nat
  streamID : Bytes
  relayStream : Nat
  deriving DecidableEq

/-! ## states -/

/-- Where the goroutine of a control stream is. -/
inductive Pc (H : Type) where
  | idle
  /-- in `HandleSubscribe`, `getPublisher` has returned -/
  | accepted (msg : Subscribe) (publisher : H)
  /-- in `GetObjectStream`, before `SendSubscribe` -/
  | missed (msg : Subscribe) (publisher : H)
  /-- `GetObjectStream` has returned, before `AddSubscriber` -/
  | fetched (msg : Subscribe) (relayStream : Nat)
  /-- after `AddSubscriber`, before `SubscribedStreams.AddStream` -/
  | added (msg : Subscribe) (relayStream : Nat)
  /-- in the loop of `ForwardSubscribeOk`: the subscribers there were when it began
  and those it has served -/
  | forwarding (relayStream : Nat) (msg : SubscribeOk) (due served : List H)

structure State (H : Type) where
  namespaces : AList fun _ : Bytes => H := ∅
  relayStreams : List (RelayStream H) := []
  incomingStreams : H → StreamsMap Nat := fun _ => ∅
  subscribedStreams : H → StreamsMap Nat := fun _ => ∅
  pc : H → Pc H := fun _ => .idle
  /-- the goroutines that are to write a `SUBSCRIBE_OK` -/
  writers : List (H × SubscribeOk) := []
  /-- the `SUBSCRIBE_OK`s written to subscribers -/
  oks : List (H × SubscribeOk) := []
  /-- the `SUBSCRIBE`s accepted from subscribers -/
  subscribes : List (H × Subscribe) := []
  /-- the publishers and ids of the `SUBSCRIBE`s that wait for an answer -/
  unanswered : List (H × Nat) := []
  /-- the data streams that are to be forwarded -/
  dataStreams : List (DataStream H) := []
  /-- the `ProcessMOQTStream` goroutines before `GetSubID` -/
  processing : List (H × DataStream H) := []
  /-- the data streams opened to subscribers, with the subscribe id in the header -/
  forwarded : List (H × Nat × DataStream H) := []

namespace State

variable {H : Type} [DecidableEq H]

/-- `GetStreamID` of a relay stream. -/
def getStreamID (s : State H) (relayStream : Nat) : Bytes :=
  match s.relayStreams[relayStream]? with
  | none => []
  | some rs => rs.streamID

def goto (s : State H) (handler : H) (pc : Pc H) : State H :=
  { s with pc := Function.update s.pc handler pc }

def addSubscriber (s : State H) (relayStream : Nat) (handler : H) : State H :=
  { s with relayStreams := s.relayStreams.modify relayStream (·.addSubscriber handler) }

def removeSubscriber (s : State H) (relayStream : Nat) (handler : H) : State H :=
  { s with relayStreams := s.relayStreams.modify relayStream (·.removeSubscriber handler) }

/-! ## control messages -/

/-- `HandleAnnounce`, for the namespace table. -/
def handleAnnounce (s : State H) (publisher : H) (msg : Announce) : State H :=
  { s with namespaces := s.namespaces.insert msg.trackNameSpace publisher }

/-- `HandleSubscribe` up to `getPublisher`. -/
def handleSubscribe (s : State H) (subscriber : H) (msg : Subscribe) : State H :=
  match s.namespaces.lookup msg.trackNameSpace with
  | none => s
  | some publisher =>
    { s with subscribes := s.subscribes ++ [(subscriber, msg)] }.goto subscriber
      (.accepted msg publisher)

end State

def contains (str substr : Bytes) : Bool := decide (substr <:+: str)

def catalogSuffix : Bytes := [0x2e, 0x63, 0x61, 0x74, 0x61, 0x6c, 0x6f, 0x67]

def mp4Suffix : Bytes := [0x2e, 0x6d, 0x70, 0x34]

/-- The tracks that are always fetched anew. -/
def fetchesAnew (msg : Subscribe) : Bool :=
  contains msg.trackName catalogSuffix || contains msg.trackName mp4Suffix

/-- The answer to a subscription that is served from an open relay stream. -/
def cachedOk (msg : Subscribe) : SubscribeOk :=
  { subscribeID := msg.subscribeID, expires := 1024, contentExists := 0 }

namespace State

variable {H : Type} [DecidableEq H]

/-- The lookup of `GetObjectStream`, and the goroutine that `HandleSubscribe` starts
if it succeeds. -/
def getObjectStream (s : State H) (subscriber : H) (msg : Subscribe) (publisher : H) (pick : Nat) :
    State H :=
  match (s.incomingStreams publisher).streamIDGetStream s.getStreamID msg.getStreamID pick with
  | none => s.goto subscriber (.missed msg publisher)
  | some relayStream =>
    if fetchesAnew msg then s.goto subscriber (.missed msg publisher)
    else
      { s with writers := s.writers ++ [(subscriber, cachedOk msg)] }.goto subscriber
        (.fetched msg relayStream)

def sendSubscribe (s : State H) (subscriber : H) (msg : Subscribe) (publisher : H)
    (draw : UInt32) : State H :=
  let subid := draw.toNat
  let relayStream := s.relayStreams.length
  { s with
    relayStreams := s.relayStreams ++
      [RelayStream.newRelayStream subid msg.getStreamID publisher { msg with subscribeID := subid }]
    incomingStreams := Function.update s.incomingStreams publisher
      ((s.incomingStreams publisher).addStream subid relayStream)
    unanswered := s.unanswered ++ [(publisher, subid)] }.goto subscriber (.fetched msg relayStream)

/-- The last step of `HandleSubscribe`. -/
def addStream (s : State H) (subscriber : H) (msg : Subscribe) (relayStream : Nat) : State H :=
  { s with
    subscribedStreams := Function.update s.subscribedStreams subscriber
      ((s.subscribedStreams subscriber).addStream msg.subscribeID relayStream) }.goto subscriber .idle

/-- The `i`-th waiting goroutine writes. -/
def writeOk (s : State H) (i : Nat) : State H :=
  match s.writers[i]? with
  | none => s
  | some ok => { s with writers := s.writers.eraseIdx i, oks := s.oks ++ [ok] }

/-- `HandleSubscribeOk` up to the loop of `ForwardSubscribeOk`. -/
def handleSubscribeOk (s : State H) (publisher : H) (msg : SubscribeOk) : State H :=
  let s := { s with unanswered := s.unanswered.erase (publisher, msg.subscribeID) }
  match (s.incomingStreams publisher).subIDGetStream msg.subscribeID with
  | none => s
  | some relayStream =>
    match s.relayStreams[relayStream]? with
    | none => s
    | some rs => s.goto publisher (.forwarding relayStream msg rs.subscribers [])

def sendSubscribeOk (s : State H) (subscriber : H) (streamid : Bytes) (okm : SubscribeOk)
    (pick : Nat) : State H :=
  match (s.subscribedStreams subscriber).getSubID s.getStreamID streamid pick with
  | none => s
  | some subid => { s with oks := s.oks ++ [(subscriber, { okm with subscribeID := subid })] }

def handleUnsubscribe (s : State H) (subscriber : H) (msg : Unsubcribe) : State H :=
  match (s.subscribedStreams subscriber).subIDGetStream msg.subscriptionID with
  | none => s
  | some relayStream => s.removeSubscriber relayStream subscriber

def handleClose (s : State H) (handler : H) : State H :=
  (s.subscribedStreams handler).entries.foldl (fun s e => s.removeSubscriber e.2 handler) s

/-! ## data streams -/

/-- `DoHandle` on a data stream with this subscribe id. -/
def doHandle (s : State H) (publisher : H) (subid : Nat) : State H :=
  match (s.incomingStreams publisher).subIDGetStream subid with
  | none => s
  | some relayStream =>
    { s with dataStreams := s.dataStreams ++
        [⟨publisher, subid, s.getStreamID relayStream, relayStream⟩] }

/-- `ForwardStream` of the `i`-th data stream: a goroutine for each subscriber. -/
def forwardStream (s : State H) (i : Nat) : State H :=
  match s.dataStreams[i]? with
  | none => s
  | some stream =>
    match s.relayStreams[stream.relayStream]? with
    | none => s
    | some rs =>
      { s with
        dataStreams := s.dataStreams.eraseIdx i
        processing := s.processing ++ rs.subscribers.map (·, stream) }

/-- `ProcessMOQTStream` in the `i`-th goroutine, up to the header. -/
def processMOQTStream (s : State H) (i pick : Nat) : State H :=
  match s.processing[i]? with
  | none => s
  | some (sub, stream) =>
    let s := { s with processing := s.processing.eraseIdx i }
    match (s.subscribedStreams sub).getSubID s.getStreamID stream.streamID pick with
    | none => s
    | some subid => { s with forwarded := s.forwarded ++ [(sub, subid, stream)] }

end State

/-! ## the machine -/

inductive Action (H : Type) where
  | announce (publisher : H) (msg : Announce)
  | subscribe (subscriber : H) (msg : Subscribe)
  | getObjectStream (subscriber : H) (pick : Nat)
  | sendSubscribe (subscriber : H) (draw : UInt32)
  | addSubscriber (subscriber : H)
  | addStream (subscriber : H)
  | writeOk (i : Nat)
  | subscribeOk (publisher : H) (msg : SubscribeOk)
  /-- a round of `ForwardSubscribeOk` -/
  | forwardOk (publisher subscriber : H) (pick : Nat)
  /-- the loop of `ForwardSubscribeOk` ends -/
  | endForward (publisher : H)
  | unsubscribe (subscriber : H) (msg : Unsubcribe)
  | close (handler : H)
  | dataStream (publisher : H) (subid : Nat)
  | forwardStream (i : Nat)
  | processMOQTStream (i pick : Nat)

variable {H : Type} [DecidableEq H]

/-- A round of a `range` over a map yields an entry that is in the map at that time
and was not yielded before. -/
def forwardOk (s : State H) (publisher subscriber : H) (pick : Nat) : State H :=
  match s.pc publisher with
  | .forwarding relayStream msg due served =>
    match s.relayStreams[relayStream]? with
    | none => s
    | some rs =>
      if subscriber ∈ rs.subscribers ∧ subscriber ∉ served then
        (s.sendSubscribeOk subscriber rs.streamID msg pick).goto publisher
          (.forwarding relayStream msg due (subscriber :: served))
      else s
  | _ => s

/-- A `range` over a map may end when the entries that were there from the beginning
have been yielded. -/
def endForward (s : State H) (publisher : H) : State H :=
  match s.pc publisher with
  | .forwarding relayStream _ due served =>
    match s.relayStreams[relayStream]? with
    | none => s
    | some rs =>
      if ∀ h ∈ due, h ∈ rs.subscribers → h ∈ served then s.goto publisher .idle else s
  | _ => s

def step (s : State H) : Action H → State H
  | .announce publisher msg =>
    match s.pc publisher with
    | .idle => s.handleAnnounce publisher msg
    | _ => s
  | .subscribe subscriber msg =>
    match s.pc subscriber with
    | .idle => s.handleSubscribe subscriber msg
    | _ => s
  | .getObjectStream subscriber pick =>
    match s.pc subscriber with
    | .accepted msg publisher => s.getObjectStream subscriber msg publisher pick
    | _ => s
  | .sendSubscribe subscriber draw =>
    match s.pc subscriber with
    | .missed msg publisher => s.sendSubscribe subscriber msg publisher draw
    | _ => s
  | .addSubscriber subscriber =>
    match s.pc subscriber with
    | .fetched msg relayStream =>
      (s.addSubscriber relayStream subscriber).goto subscriber (.added msg relayStream)
    | _ => s
  | .addStream subscriber =>
    match s.pc subscriber with
    | .added msg relayStream => s.addStream subscriber msg relayStream
    | _ => s
  | .writeOk i => s.writeOk i
  | .subscribeOk publisher msg =>
    match s.pc publisher with
    | .idle => s.handleSubscribeOk publisher msg
    | _ => s
  | .forwardOk publisher subscriber pick => forwardOk s publisher subscriber pick
  | .endForward publisher => endForward s publisher
  | .unsubscribe subscriber msg =>
    match s.pc subscriber with
    | .idle => s.handleUnsubscribe subscriber msg
    | _ => s
  | .close handler => s.handleClose handler
  | .dataStream publisher subid => s.doHandle publisher subid
  | .forwardStream i => s.forwardStream i
  | .processMOQTStream i pick => s.processMOQTStream i pick

end MoqQuic.Moqt
