import Mathlib.Data.Finmap
import MoqQuic.Wire.Stream

/-!
# MoqQuic.Wire.Message

Control messages: the message types of the package `wire`, their parameters, and
`ParseMOQTMessage`.

`Parse` methods fill their receiver field by field, so a truncated message leaves
a partly filled receiver behind together with an error.  A map is iterated in any
order, so the encoders take the order as an argument.
-/

namespace MoqQuic.Wire

open Parse

def SUBSCRIBE : Nat := 0x3
def SUBSCRIBE_OK : Nat := 0x4
def ANNOUNCE : Nat := 0x6
def ANNOUNCE_OK : Nat := 0x7
def UNSUBSCRIBE : Nat := 0xA
def SUBSCRIBE_DONE : Nat := 0xB
def CLIENT_SETUP : Nat := 0x40
def SERVER_SETUP : Nat := 0x41

/-! ## strings and parameters -/

def parseVarIntString {σ : Type} : WireParse σ Bytes := do
  let len ← Quicvarint.read
  readFull len

/-- `GetBytesVarIntString`, appended to `data`. -/
def appendVarIntString (data str : Bytes) : Option Bytes := do
  let data ← Quicvarint.append data str.length
  return data ++ str

def ROLE_PARAM : Nat := 0x00
def ROLE_PATH : Nat := 0x01

/-- `IntParameter` and `StringParameter`. -/
inductive Parameter where
  | int (ptype pvalue : Nat)
  | string (ptype : Nat) (pvalue : Bytes)
  deriving DecidableEq, Repr

namespace Parameter

def getBytes : Parameter → Option Bytes
  | .int ptype pvalue => do
    let data ← Quicvarint.append [] ptype
    let len ← Quicvarint.len pvalue
    let data ← Quicvarint.append data len
    Quicvarint.append data pvalue
  | .string ptype pvalue => do
    let data ← Quicvarint.append [] ptype
    appendVarIntString data pvalue

/-- The parameter that `Parameters.Parse` reads after its type; the value of an
unknown one is discarded. -/
def parse {σ : Type} (ptype : Nat) : WireParse σ Parameter :=
  if ptype = ROLE_PARAM then do
    let _ ← Quicvarint.read
    let pvalue ← Quicvarint.read
    return .int ptype pvalue
  else if ptype = ROLE_PATH then do
    let pvalue ← parseVarIntString
    return .string ptype pvalue
  else do
    let len ← Quicvarint.read
    let _ ← readInto len
    fail .unknownParam

end Parameter

abbrev Parameters : Type := Finmap fun _ : Nat => Parameter

namespace Parameters

/-- An order in which the map can be iterated. -/
abbrev Order : Type := List (Sigma fun _ : Nat => Parameter)

/-- One round of the loop of `Parameters.Parse`. -/
def parseEntry : WireParse Parameters Unit := do
  let ptype ← Quicvarint.read
  let param ← Parameter.parse ptype
  update fun params => params.insert ptype param

def parse : WireParse Parameters Unit := do
  let length ← Quicvarint.read
  times parseEntry length

/-- One round of the loop of `Parameters.GetBytes`. -/
def appendEntry (data : Bytes) (e : Sigma fun _ : Nat => Parameter) : Option Bytes := do
  let bytes ← e.2.getBytes
  return data ++ bytes

/-- `Parameters.GetBytes`, appended to `data`. -/
def appendBytes (params : Parameters) (order : Order) (data : Bytes) : Option Bytes := do
  let data ← Quicvarint.append data params.entries.card
  order.foldlM appendEntry data

/-- A fresh parameter block, the error of `Parse` passed on. -/
def parseChecked {σ : Type} : WireParse σ Parameters := do
  let (x, params) ← nested ∅ parse
  match x with
  | .error e => fail e
  | .ok () => return params

end Parameters

/-! ## messages -/

structure ClientSetup where
  supportedVersions : List Nat := []
  params : Parameters := ∅
  deriving DecidableEq

namespace ClientSetup

def addVersion (setup : ClientSetup) (version : Nat) : ClientSetup :=
  { setup with supportedVersions := setup.supportedVersions ++ [version] }

/-- One round of the version loop. -/
def parseVersion : WireParse ClientSetup Unit := do
  let version ← Quicvarint.read
  update fun setup => setup.addVersion version

/-- The error of the parameter block is dropped. -/
def parse : WireParse ClientSetup Unit := do
  let nversions ← Quicvarint.read
  times parseVersion nversions
  let (_, params) ← nested ∅ Parameters.parse
  update fun setup => { setup with params := params }

def getBytes (setup : ClientSetup) (order : Parameters.Order) : Option Bytes := do
  let data ← Quicvarint.append [] CLIENT_SETUP
  let data ← Quicvarint.append data setup.supportedVersions.length
  let data ← setup.supportedVersions.foldlM Quicvarint.append data
  setup.params.appendBytes order data

end ClientSetup

structure ServerSetup where
  selectedVersion : Nat := 0
  params : Parameters := ∅
  deriving DecidableEq

namespace ServerSetup

/-- The error of the parameter block is dropped. -/
def parse : WireParse ServerSetup Unit := do
  assign Quicvarint.read fun setup v => { setup with selectedVersion := v }
  let (_, params) ← nested ∅ Parameters.parse
  update fun setup => { setup with params := params }

def getBytes (setup : ServerSetup) (order : Parameters.Order) : Option Bytes := do
  let data ← Quicvarint.append [] SERVER_SETUP
  let data ← Quicvarint.append data setup.selectedVersion
  setup.params.appendBytes order data

end ServerSetup

structure Announce where
  trackNameSpace : Bytes := []
  params : Parameters := ∅
  deriving DecidableEq

namespace Announce

def parse : WireParse Announce Unit := do
  assign parseVarIntString fun a v => { a with trackNameSpace := v }
  let params ← Parameters.parseChecked
  update fun a => { a with params := params }

def getBytes (a : Announce) (order : Parameters.Order) : Option Bytes := do
  let data ← Quicvarint.append [] ANNOUNCE
  let data ← appendVarIntString data a.trackNameSpace
  a.params.appendBytes order data

end Announce

structure AnnounceOk where
  trackNameSpace : Bytes := []
  deriving DecidableEq, Repr

namespace AnnounceOk

def parse : WireParse AnnounceOk Unit :=
  assign parseVarIntString fun msg v => { msg with trackNameSpace := v }

def getBytes (msg : AnnounceOk) : Option Bytes := do
  let data ← Quicvarint.append [] ANNOUNCE_OK
  appendVarIntString data msg.trackNameSpace

end AnnounceOk

def LatestGroup : Nat := 0x1
def LatestObject : Nat := 0x2
def AbsoluteStart : Nat := 0x3
def AbsoluteRange : Nat := 0x4

structure Subscribe where
  subscribeID : Nat := 0
  trackAlias : Nat := 0
  trackNameSpace : Bytes := []
  trackName : Bytes := []
  filterType : Nat := 0
  startGroup : Nat := 0
  startObject : Nat := 0
  endGroup : Nat := 0
  endObject : Nat := 0
  params : Parameters := ∅
  deriving DecidableEq

namespace Subscribe

/-- The filter carries a start. -/
def hasStart (s : Subscribe) : Bool :=
  s.filterType == AbsoluteStart || s.filterType == AbsoluteRange

/-- The filter carries an end. -/
def hasEnd (s : Subscribe) : Bool := s.filterType == AbsoluteRange

def parse : WireParse Subscribe Unit := do
  assign Quicvarint.read fun s v => { s with subscribeID := v }
  assign Quicvarint.read fun s v => { s with trackAlias := v }
  assign parseVarIntString fun s v => { s with trackNameSpace := v }
  assign parseVarIntString fun s v => { s with trackName := v }
  assign Quicvarint.read fun s v => { s with filterType := v }
  onlyIf hasStart (assign Quicvarint.read fun s v => { s with startGroup := v })
  onlyIf hasStart (assign Quicvarint.read fun s v => { s with startObject := v })
  onlyIf hasEnd (assign Quicvarint.read fun s v => { s with endGroup := v })
  onlyIf hasEnd (assign Quicvarint.read fun s v => { s with endObject := v })
  let params ← Parameters.parseChecked
  update fun s => { s with params := params }

/-- Append `i` if the field is present. -/
def appendIf (present : Bool) (data : Bytes) (i : Nat) : Option Bytes :=
  if present then Quicvarint.append data i else some data

def getBytes (s : Subscribe) (order : Parameters.Order) : Option Bytes := do
  let data ← Quicvarint.append [] SUBSCRIBE
  let data ← Quicvarint.append data s.subscribeID
  let data ← Quicvarint.append data s.trackAlias
  let data ← appendVarIntString data s.trackNameSpace
  let data ← appendVarIntString data s.trackName
  let data ← Quicvarint.append data s.filterType
  let data ← appendIf s.hasStart data s.startGroup
  let data ← appendIf s.hasStart data s.startObject
  let data ← appendIf s.hasEnd data s.endGroup
  let data ← appendIf s.hasEnd data s.endObject
  s.params.appendBytes order data

/-- `GetStreamID`: the namespace and the name with an underscore between. -/
def getStreamID (s : Subscribe) : Bytes := s.trackNameSpace ++ [0x5f] ++ s.trackName

end Subscribe

structure SubscribeOk where
  subscribeID : Nat := 0
  expires : Nat := 0
  contentExists : UInt8 := 0
  largestGroupId : Nat := 0
  largestObjectId : Nat := 0
  deriving DecidableEq, Repr

namespace SubscribeOk

def hasContent (s : SubscribeOk) : Bool := s.contentExists == 1

/-- Both optional fields are read into `largestObjectId`. -/
def parse : WireParse SubscribeOk Unit := do
  assign Quicvarint.read fun s v => { s with subscribeID := v }
  assign Quicvarint.read fun s v => { s with expires := v }
  assign readByte fun s v => { s with contentExists := v }
  onlyIf hasContent do
    assign Quicvarint.read fun s v => { s with largestObjectId := v }
    assign Quicvarint.read fun s v => { s with largestObjectId := v }

def getBytes (s : SubscribeOk) : Option Bytes := do
  let data ← Quicvarint.append [] SUBSCRIBE_OK
  let data ← Quicvarint.append data s.subscribeID
  let data ← Quicvarint.append data s.expires
  let data := data ++ [s.contentExists]
  if s.contentExists = 1 then do
    let data ← Quicvarint.append data s.largestObjectId
    Quicvarint.append data s.largestGroupId
  else return data

end SubscribeOk

structure SubscribeDone where
  subscribeID : Nat := 0
  statusCode : Nat := 0
  reasonPhrase : Bytes := []
  contentExists : UInt8 := 0
  finalGroup : Nat := 0
  finalObject : Nat := 0
  deriving DecidableEq, Repr

namespace SubscribeDone

def hasContent (m : SubscribeDone) : Bool := m.contentExists == 1

def parse : WireParse SubscribeDone Unit := do
  assign Quicvarint.read fun m v => { m with subscribeID := v }
  assign Quicvarint.read fun m v => { m with statusCode := v }
  assign parseVarIntString fun m v => { m with reasonPhrase := v }
  assign readByte fun m v => { m with contentExists := v }
  onlyIf hasContent do
    assign Quicvarint.read fun m v => { m with finalGroup := v }
    assign Quicvarint.read fun m v => { m with finalObject := v }

/-- The body of the message; the type is not written. -/
def getBytes (m : SubscribeDone) : Option Bytes := do
  let data ← Quicvarint.append [] m.subscribeID
  let data ← Quicvarint.append data m.statusCode
  let data ← appendVarIntString data m.reasonPhrase
  let data := data ++ [m.contentExists]
  if m.contentExists = 1 then do
    let data ← Quicvarint.append data m.finalGroup
    Quicvarint.append data m.finalObject
  else return data

end SubscribeDone

structure Unsubcribe where
  subscriptionID : Nat := 0
  deriving DecidableEq, Repr

namespace Unsubcribe

def parse : WireParse Unsubcribe Unit :=
  assign Quicvarint.read fun msg v => { msg with subscriptionID := v }

def getBytes (msg : Unsubcribe) : Option Bytes := do
  let data ← Quicvarint.append [] UNSUBSCRIBE
  Quicvarint.append data msg.subscriptionID

end Unsubcribe

inductive MOQTMessage where
  | clientSetup (m : ClientSetup)
  | serverSetup (m : ServerSetup)
  | announce (m : Announce)
  | announceOk (m : AnnounceOk)
  | subscribe (m : Subscribe)
  | subscribeOk (m : SubscribeOk)
  | unsubscribe (m : Unsubcribe)
  | subscribeDone (m : SubscribeDone)
  deriving DecidableEq

namespace MOQTMessage

def type : MOQTMessage → Nat
  | .clientSetup _ => CLIENT_SETUP
  | .serverSetup _ => SERVER_SETUP
  | .announce _ => ANNOUNCE
  | .announceOk _ => ANNOUNCE_OK
  | .subscribe _ => SUBSCRIBE
  | .subscribeOk _ => SUBSCRIBE_OK
  | .unsubscribe _ => UNSUBSCRIBE
  | .subscribeDone _ => SUBSCRIBE_DONE

def getBytes (m : MOQTMessage) (order : Parameters.Order) : Option Bytes :=
  match m with
  | .clientSetup m => m.getBytes order
  | .serverSetup m => m.getBytes order
  | .announce m => m.getBytes order
  | .announceOk m => m.getBytes
  | .subscribe m => m.getBytes order
  | .subscribeOk m => m.getBytes
  | .unsubscribe m => m.getBytes
  | .subscribeDone m => m.getBytes

end MOQTMessage

/-- `msg.Parse(reader)` on a new message; its error is dropped. -/
def parseInto {σ : Type} (p : WireParse σ Unit) (zero : σ) (mk : σ → MOQTMessage) (r : Bytes) :
    Except WireError MOQTMessage × Bytes :=
  match p zero r with
  | (_, msg, r') => (.ok (mk msg), r')

/-- The switch of `ParseMOQTMessage` on the message type. -/
def dispatch (mtype : Nat) (r : Bytes) : Except WireError MOQTMessage × Bytes :=
  if mtype = CLIENT_SETUP then parseInto ClientSetup.parse {} .clientSetup r
  else if mtype = SERVER_SETUP then parseInto ServerSetup.parse {} .serverSetup r
  else if mtype = ANNOUNCE then parseInto Announce.parse {} .announce r
  else if mtype = ANNOUNCE_OK then parseInto AnnounceOk.parse {} .announceOk r
  else if mtype = SUBSCRIBE then parseInto Subscribe.parse {} .subscribe r
  else if mtype = SUBSCRIBE_OK then parseInto SubscribeOk.parse {} .subscribeOk r
  else if mtype = UNSUBSCRIBE then parseInto Unsubcribe.parse {} .unsubscribe r
  else if mtype = SUBSCRIBE_DONE then parseInto SubscribeDone.parse {} .subscribeDone r
  else (.error (.unknownMessage mtype), r)

def parseMOQTMessage (r : Bytes) : Except WireError MOQTMessage × Bytes :=
  match (Quicvarint.read : WireParse Unit Nat) () r with
  | (.error e, _, r) => (.error e, r)
  | (.ok mtype, _, r) => dispatch mtype r

end MoqQuic.Wire
