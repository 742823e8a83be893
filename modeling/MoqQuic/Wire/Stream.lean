import MoqQuic.Quicvarint

/-!
# MoqQuic.Wire.Stream

Data streams: `object.go`, `groupstream.go`, `trackstream.go` and `stream.go` of
the package `wire`.

A data stream is a header followed by objects.  The header of a group stream
names the group once for all its objects; on a track stream each object is
preceded by its group.  The mutex, the condition variable and the wait group of
the source are not fields here: their steps are the transitions of
`MoqQuic.Wire.Pipe`.
-/

namespace MoqQuic

/-- The errors of the package `wire`. -/
inductive WireError where
  | eof
  | unexpectedEOF
  /-- `unkown MOQT Message` -/
  | unknownMessage (mtype : Nat)
  /-- `[Unknown Param]` -/
  | unknownParam
  /-- `Unknown Header Type` -/
  | unknownHeader (htype : Nat)
  /-- `Reader is nil` -/
  | nilReader
  deriving DecidableEq, Repr

instance : StreamError WireError := ⟨.eof, .unexpectedEOF⟩

/-- The parse methods of the package `wire`. -/
abbrev WireParse (σ α : Type) : Type := Parse WireError σ α

namespace Wire

open Parse

def STREAM_HEADER_GROUP : Nat := 0x51
def STREAM_HEADER_TRACK : Nat := 0x50

/-! ## objects -/

structure Object where
  groupID : Nat := 0
  id : Nat := 0
  payload : Bytes := []
  deriving DecidableEq, Repr

namespace Object

/-- `Object.Parse`: the payload is a zeroed buffer that `io.ReadFull` fills as far
as the stream goes, and the error of `io.ReadFull` is dropped. -/
def parse : WireParse Object Unit := do
  assign Quicvarint.read fun o v => { o with id := v }
  let length ← Quicvarint.read
  assign (readInto length) fun o v => { o with payload := v }

def getBytes (o : Object) : Option Bytes := do
  let data ← Quicvarint.append [] o.id
  let data ← Quicvarint.append data o.payload.length
  return data ++ o.payload

end Object

/-! ## streams -/

structure GroupStream where
  subID : Nat := 0
  trackAlias : Nat := 0
  groupID : Nat := 0
  sendOrder : Nat := 0
  objectsArr : List Object := []
  isEOF : Bool := false
  reader : Option Bytes := none
  deriving DecidableEq, Repr

structure TrackStream where
  subID : Nat := 0
  trackAlias : Nat := 0
  sendOrder : Nat := 0
  objectsArr : List Object := []
  isEOF : Bool := false
  reader : Option Bytes := none
  deriving DecidableEq, Repr

namespace GroupStream

def newGroupStream (subid groupid trackAlias : Nat) : GroupStream :=
  { subID := subid, trackAlias := trackAlias, sendOrder := 0, groupID := groupid }

/-- `Parse`, for the fields of the header; the caller keeps the reader. -/
def parse (subid : Nat) : WireParse GroupStream Unit := do
  update fun gs => { gs with subID := subid }
  assign Quicvarint.read fun gs v => { gs with trackAlias := v }
  assign Quicvarint.read fun gs v => { gs with groupID := v }
  assign Quicvarint.read fun gs v => { gs with sendOrder := v }

def getHeaderSubIDBytes (gs : GroupStream) (subid : Nat) : Option Bytes := do
  let data ← Quicvarint.append [] STREAM_HEADER_GROUP
  let data ← Quicvarint.append data subid
  let data ← Quicvarint.append data gs.trackAlias
  let data ← Quicvarint.append data gs.groupID
  Quicvarint.append data gs.sendOrder

def getHeaderBytes (gs : GroupStream) : Option Bytes := gs.getHeaderSubIDBytes gs.subID

def close (gs : GroupStream) : GroupStream := { gs with isEOF := true }

def writeObject (gs : GroupStream) (object : Object) : GroupStream :=
  { gs with objectsArr := gs.objectsArr ++ [object] }

def readObject (gs : GroupStream) : Except WireError (Nat × Object) × GroupStream :=
  match gs.reader with
  | none => (.error .nilReader, gs)
  | some r =>
    match Object.parse {} r with
    | (.error .eof, _, r') => (.error .eof, { gs with reader := some r' }.close)
    | (.error e, _, r') => (.error e, { gs with reader := some r' })
    | (.ok (), object, r') =>
      (.ok (gs.groupID, object), { gs with reader := some r' }.writeObject object)

end GroupStream

namespace TrackStream

/-- The alias is not stored. -/
def newTrackStream (subid _trackAlias : Nat) : TrackStream := { subID := subid }

/-- `Parse`, for the fields of the header; the caller keeps the reader. -/
def parse (subid : Nat) : WireParse TrackStream Unit := do
  update fun ts => { ts with subID := subid }
  assign Quicvarint.read fun ts v => { ts with trackAlias := v }
  assign Quicvarint.read fun ts v => { ts with sendOrder := v }

def getHeaderSubIDBytes (ts : TrackStream) (subid : Nat) : Option Bytes := do
  let data ← Quicvarint.append [] STREAM_HEADER_TRACK
  let data ← Quicvarint.append data subid
  let data ← Quicvarint.append data ts.trackAlias
  Quicvarint.append data ts.sendOrder

def getHeaderBytes (ts : TrackStream) : Option Bytes := ts.getHeaderSubIDBytes ts.subID

def close (ts : TrackStream) : TrackStream := { ts with isEOF := true }

def writeObject (ts : TrackStream) (object : Object) : TrackStream :=
  { ts with objectsArr := ts.objectsArr ++ [object] }

/-- The group and the object, as `ReadObject` reads them. -/
def parseObject : WireParse Object Nat := do
  let groupid ← Quicvarint.read
  Object.parse
  update fun o => { o with groupID := groupid }
  return groupid

def readObject (ts : TrackStream) : Except WireError (Nat × Object) × TrackStream :=
  match ts.reader with
  | none => (.error .nilReader, ts)
  | some r =>
    match parseObject {} r with
    | (.error .eof, _, r') => (.error .eof, { ts with reader := some r' }.close)
    | (.error e, _, r') => (.error e, { ts with reader := some r' })
    | (.ok groupid, object, r') =>
      (.ok (groupid, object), { ts with reader := some r' }.writeObject object)

end TrackStream

inductive MOQTStream where
  | group (gs : GroupStream)
  | track (ts : TrackStream)
  deriving DecidableEq, Repr

namespace MOQTStream

/-- `ParseMOQTStream`, with the reader it leaves in the stream. -/
def parse (r : Bytes) : Except WireError (Nat × MOQTStream) :=
  match (Quicvarint.read : WireParse Unit Nat) () r with
  | (.error e, _, _) => .error e
  | (.ok htype, _, r) =>
    if htype ≠ STREAM_HEADER_GROUP ∧ htype ≠ STREAM_HEADER_TRACK then
      .error (.unknownHeader htype)
    else
      match (Quicvarint.read : WireParse Unit Nat) () r with
      | (.error e, _, _) => .error e
      | (.ok subid, _, r) =>
        if htype = STREAM_HEADER_GROUP then
          match GroupStream.parse subid {} r with
          | (.error e, _, _) => .error e
          | (.ok (), gs, r) => .ok (subid, .group { gs with reader := some r })
        else
          match TrackStream.parse subid {} r with
          | (.error e, _, _) => .error e
          | (.ok (), ts, r) => .ok (subid, .track { ts with reader := some r })

def getHeaderBytes : MOQTStream → Option Bytes
  | .group gs => gs.getHeaderBytes
  | .track ts => ts.getHeaderBytes

def readObject : MOQTStream → Except WireError (Nat × Object) × MOQTStream
  | .group gs => let (x, gs) := gs.readObject; (x, .group gs)
  | .track ts => let (x, ts) := ts.readObject; (x, .track ts)

def writeObject (object : Object) : MOQTStream → MOQTStream
  | .group gs => .group (gs.writeObject object)
  | .track ts => .track (ts.writeObject object)

def close : MOQTStream → MOQTStream
  | .group gs => .group gs.close
  | .track ts => .track ts.close

def objectsArr : MOQTStream → List Object
  | .group gs => gs.objectsArr
  | .track ts => ts.objectsArr

def isEOF : MOQTStream → Bool
  | .group gs => gs.isEOF
  | .track ts => ts.isEOF

/-- What `Pipe` emits for one object: a track stream puts the group before it. -/
def objectBytes : MOQTStream → Object → Option Bytes
  | .group _, o => o.getBytes
  | .track _, o => do
    let data ← Quicvarint.append [] o.groupID
    let bytes ← o.getBytes
    return data ++ bytes

end MOQTStream

/-! ## encodings -/

/-- The fields of the object fit variable-length integers. -/
structure Object.Fits (o : Object) : Prop where
  groupID : o.groupID < 2 ^ 62
  id : o.id < 2 ^ 62
  length : o.payload.length < 2 ^ 62

instance (o : Object) : Decidable o.Fits :=
  decidable_of_iff (o.groupID < 2 ^ 62 ∧ o.id < 2 ^ 62 ∧ o.payload.length < 2 ^ 62)
    ⟨fun h => ⟨h.1, h.2.1, h.2.2⟩, fun h => ⟨h.1, h.2, h.3⟩⟩

/-- An object that can be sent. -/
abbrev WireObject : Type := { o : Object // o.Fits }

def Object.head (o : Object) : Bytes :=
  Quicvarint.encode o.id ++ Quicvarint.encode o.payload.length

theorem Object.getBytes_eq {o : Object} (h : o.Fits) : o.getBytes = some (o.head ++ o.payload) := by
  simp [Object.getBytes, Object.head, Quicvarint.append_eq _ h.id, Quicvarint.append_eq _ h.length]

namespace MOQTStream

/-- The bytes of an object on the stream before its payload. -/
def head : MOQTStream → Object → Bytes
  | .group _, o => o.head
  | .track _, o => Quicvarint.encode o.groupID ++ o.head

/-- The bytes of an object on the stream. -/
def encode (st : MOQTStream) (o : WireObject) : Bytes := st.head o.1 ++ o.1.payload

variable (st : MOQTStream)

theorem objectBytes_eq (o : WireObject) : st.objectBytes o.1 = some (st.encode o) := by
  cases st with
  | group gs => exact Object.getBytes_eq o.2
  | track ts =>
    simp [objectBytes, encode, head, Object.getBytes_eq o.2, Quicvarint.append_eq _ o.2.groupID]

theorem head_ne_nil {o : Object} (h : o.Fits) : st.head o ≠ [] := by
  have hhead : o.head ≠ [] := by
    intro hnil
    rw [Object.head, List.append_eq_nil_iff] at hnil
    exact Quicvarint.encode_ne_nil h.id hnil.1
  cases st with
  | group gs => exact hhead
  | track ts => simp [head, hhead]

theorem encode_ne_nil (o : WireObject) : st.encode o ≠ [] := by
  simp [encode, st.head_ne_nil o.2]

end MOQTStream

end Wire

end MoqQuic
