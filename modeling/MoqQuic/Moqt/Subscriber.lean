import MoqQuic.Moqt.Relay

/-!
# MoqQuic.Moqt.Subscriber

The handler of a subscriber: `moqt/subhandler.go` and `moqt/substream.go`.

`Subscribe` writes its message before it registers the stream, and the peer may answer in between.
An answer that carries the id of such a call is dropped, and no other that carries an id of ours
(`heard_iff_registered`).
-/

namespace MoqQuic.Moqt

open Machine Wire

structure SubStream where
  streamID : Bytes
  subID : Nat
  deriving DecidableEq

structure SubHandler where
  subscribedStreams : StreamsMap SubStream := ∅
  /-- the messages that were written -/
  written : List Subscribe := []
  /-- the calls of `Subscribe` that have not registered their stream yet -/
  calls : List SubStream := []
  /-- what was sent to `StreamsChan` -/
  streamsChan : List SubStream := []
  /-- the streams whose objects are processed -/
  processed : List SubStream := []
  /-- the ids that were not found -/
  unknown : List Nat := []
  deriving DecidableEq

namespace SubHandler

inductive Op where
  /-- `Subscribe` writes its message -/
  | subscribe (ns name : Bytes) (trackAlias : Nat) (draw : UInt32)
  /-- the call of `Subscribe` with this stream registers it -/
  | addStream (ss : SubStream)
  | handleSubscribeOk (subid : Nat)
  /-- a round of `DoHandle`, after the header of a data stream was parsed -/
  | doHandle (subid : Nat)
  deriving DecidableEq

def newSubscribe (ns name : Bytes) (trackAlias : Nat) (draw : UInt32) : Subscribe where
  subscribeID := draw.toNat
  trackAlias := trackAlias
  trackName := name
  trackNameSpace := ns
  filterType := LatestGroup

def step (sub : SubHandler) : Op → SubHandler
  | .subscribe ns name trackAlias draw =>
    let msg := newSubscribe ns name trackAlias draw
    { sub with
      written := sub.written ++ [msg]
      calls := sub.calls ++ [⟨msg.getStreamID, msg.subscribeID⟩] }
  | .addStream ss =>
    if ss ∈ sub.calls then { sub with
      calls := sub.calls.erase ss
      subscribedStreams := sub.subscribedStreams.addStream ss.subID ss }
    else sub
  | .handleSubscribeOk subid =>
    match sub.subscribedStreams.subIDGetStream subid with
    | some ss => { sub with streamsChan := sub.streamsChan ++ [ss] }
    | none => { sub with unknown := sub.unknown ++ [subid] }
  | .doHandle subid =>
    match sub.subscribedStreams.subIDGetStream subid with
    | some ss => { sub with processed := sub.processed ++ [ss] }
    | none => { sub with unknown := sub.unknown ++ [subid] }

/-- The id that an answer of the peer carries. -/
def Op.answers : Op → Option Nat
  | .handleSubscribeOk subid | .doHandle subid => some subid
  | _ => none

/-- An answer that carries an id of ours is not dropped. -/
def Heard (sub : SubHandler) (op : Op) : Prop :=
  ∀ subid, op.answers = some subid → (∃ msg ∈ sub.written, msg.subscribeID = subid) →
    (sub.step op).unknown = sub.unknown

/-- If a call with the id of the answer has not registered its stream yet, another one has. -/
def Registered (sub : SubHandler) (op : Op) : Prop :=
  ∀ subid, op.answers = some subid → (∃ ss ∈ sub.calls, ss.subID = subid) →
    subid ∈ sub.subscribedStreams

/-- The ids of our messages are those of the calls and of the streams. -/
def Accounted (sub : SubHandler) : Prop :=
  ∀ subid, (∃ msg ∈ sub.written, msg.subscribeID = subid) ↔
    (∃ ss ∈ sub.calls, ss.subID = subid) ∨ subid ∈ sub.subscribedStreams

variable {sub : SubHandler}

theorem accounted_step (op : Op) (h : sub.Accounted) : (sub.step op).Accounted := by
  intro subid
  have hbefore := h subid
  cases op with
  | subscribe ns name trackAlias draw =>
    simp only [step, List.mem_append, List.mem_singleton, or_and_right, exists_or, exists_eq_left,
      hbefore]
    rw [or_right_comm]
  | addStream ss =>
    simp only [step]
    split
    · next hmem =>
      rw [hbefore, StreamsMap.addStream, AList.mem_insert]
      by_cases heq : subid = ss.subID
      · simp only [heq, true_or, or_true, iff_true]
        exact .inl ⟨ss, hmem, rfl⟩
      · have hne (ss' : SubStream) (hid : ss'.subID = subid) : ss' ≠ ss :=
          fun hss => heq (by rw [← hid, hss])
        simp only [heq, false_or]
        grind
    · exact hbefore
  | handleSubscribeOk | doHandle =>
    simp only [step]
    split <;> exact hbefore

theorem unknown_step_of_answers {op : Op} {subid : Nat} (h : op.answers = some subid) :
    (sub.step op).unknown = sub.unknown ↔ subid ∈ sub.subscribedStreams := by
  rw [← AList.lookup_isSome]
  cases op with
  | subscribe | addStream => cases h
  | handleSubscribeOk subid | doHandle subid =>
    cases h
    cases hlookup : sub.subscribedStreams.lookup subid <;>
      simp [step, StreamsMap.subIDGetStream, hlookup]

theorem Accounted.heard_iff (h : sub.Accounted) (op : Op) : sub.Heard op ↔ sub.Registered op := by
  refine forall_congr' fun subid => forall_congr' fun hop => ?_
  rw [unknown_step_of_answers hop]
  rw [h subid, or_imp]
  exact and_iff_left id

/-- **No answer is lost, exactly**: in a run every answer that carries an id of ours is heard if and
only if none carries the id of a call that has yet to register its stream. -/
theorem heard_iff_registered (ops : List Op) :
    EachStep step Heard {} ops ↔ EachStep step Registered {} ops := by
  have hnew : Accounted {} := by simp [Accounted]
  exact eachStep_congr (I := Accounted) (fun _ op => accounted_step op)
    (fun _ op h => h.heard_iff op) ops {} hnew

/-- The answer comes before the stream is registered. -/
theorem earlyAnswer_lost :
    ¬ EachStep step Heard {} [.subscribe [1] [2] 3 7, .handleSubscribeOk 7] := by
  rintro ⟨-, hheard, -⟩
  exact absurd (hheard 7 rfl ⟨_, List.mem_singleton.mpr rfl, rfl⟩) (by decide)

end SubHandler

end MoqQuic.Moqt
