import MoqQuic.Wire.Stream

/-!
# MoqQuic.Wire.Integrity

What a reader gets out of a data stream, complete or cut short.

A stream made by `NewGroupStream` or `NewTrackStream` is written as its header and
its objects; the reader calls `ParseMOQTStream` and then `ReadObject` until it
fails.  `readObjects_take` says what it gets from the first `n` bytes of the
objects: those that are complete, and, since `Object.Parse` drops the error of
`io.ReadFull`, also one whose payload was cut, filled up with zeros.
-/

namespace MoqQuic.Wire

open Parse Quicvarint

/-! ## one object -/

/-- The payload that `Object.Parse` makes of a stream that continues with `r`. -/
def zeroFilled (n : Nat) (r : Bytes) : Bytes := r.take n ++ List.replicate (n - r.length) 0

theorem zeroFilled_append (payload rest : Bytes) :
    zeroFilled payload.length (payload ++ rest) = payload := by
  simp [zeroFilled]

namespace Object

variable {o : Object}

theorem parse_head (h : o.Fits) (s : Object) (r : Bytes) :
    Object.parse s (o.head ++ r) =
      (.ok (), { s with id := o.id, payload := zeroFilled o.payload.length r },
        r.drop o.payload.length) := by
  have hid : Reads (assign read fun (o : Object) v => { o with id := v } : WireParse Object Unit) s
      (encode o.id) () { s with id := o.id } := (exact_read h.id).reads.assign
  rw [head, List.append_assoc, Object.parse, bind_ok (hid _), bind_ok ((exact_read h.length).reads _)]
  rfl

theorem parse_starved (h : o.Fits) {cut : Bytes} (hpre : cut <+: o.head) (hne : cut ≠ o.head)
    (s : Object) : ∃ s', Object.parse s cut = (.error .eof, s', []) := by
  have hid : Reads (assign read fun (o : Object) v => { o with id := v } : WireParse Object Unit) s
      (encode o.id) () { s with id := o.id } := (exact_read h.id).reads.assign
  obtain ⟨hcut, hne'⟩ | ⟨cut', rfl, hcut, hne'⟩ := strict_prefix_append hpre hne
  · have herr : (assign read fun (o : Object) v => { o with id := v } : WireParse Object Unit) s cut =
        (.error .eof, { s with id := 0 }, []) := by
      rw [assign, read_starves h.id hcut hne']
      rfl
    exact ⟨_, bind_error herr⟩
  · exact ⟨_, (bind_ok (hid cut')).trans (bind_error (read_starves h.length hcut hne' _))⟩

end Object

namespace MOQTStream

/-- The reader of the stream. -/
def reader : MOQTStream → Option Bytes
  | .group gs => gs.reader
  | .track ts => ts.reader

def subID : MOQTStream → Nat
  | .group gs => gs.subID
  | .track ts => ts.subID

def trackAlias : MOQTStream → Nat
  | .group gs => gs.trackAlias
  | .track ts => ts.trackAlias

/-- The group of a group stream. -/
def groupID : MOQTStream → Option Nat
  | .group gs => some gs.groupID
  | .track _ => none

/-- The group of an object on the stream: a group stream gives its own. -/
def groupOf (st : MOQTStream) (o : Object) : Nat := st.groupID.getD o.groupID

theorem head_congr {st st' : MOQTStream} (h : st.groupID = st'.groupID) : st.head = st'.head := by
  cases st <;> cases st' <;> first | rfl | cases h

theorem encode_congr {st st' : MOQTStream} (h : st.groupID = st'.groupID) :
    st.encode = st'.encode := by
  funext o
  rw [encode, encode, head_congr h]

variable {st : MOQTStream}

theorem readObject_head {o : Object} (h : o.Fits) {r : Bytes}
    (hr : st.reader = some (st.head o ++ r)) :
    ∃ object st', st.readObject = (.ok (st.groupOf o, object), st') ∧ object.id = o.id ∧
      object.payload = zeroFilled o.payload.length r ∧ st'.groupID = st.groupID ∧
      st'.reader = some (r.drop o.payload.length) := by
  cases st with
  | group gs =>
    have hr' : gs.reader = some (o.head ++ r) := hr
    simp only [readObject, GroupStream.readObject, hr', Object.parse_head h]
    exact ⟨_, _, rfl, rfl, rfl, rfl, rfl⟩
  | track ts =>
    have hr' : ts.reader = some (Quicvarint.encode o.groupID ++ (o.head ++ r)) := by
      rw [← List.append_assoc]
      exact hr
    have hparse : TrackStream.parseObject {} (Quicvarint.encode o.groupID ++ (o.head ++ r)) =
        (.ok o.groupID, ⟨o.groupID, o.id, zeroFilled o.payload.length r⟩,
          r.drop o.payload.length) := by
      rw [TrackStream.parseObject, bind_ok ((exact_read h.groupID).reads _),
        bind_ok (Object.parse_head h {} r)]
      rfl
    simp only [readObject, TrackStream.readObject, hr', hparse]
    exact ⟨_, _, rfl, rfl, rfl, rfl, rfl⟩

theorem readObject_starved {o : Object} (h : o.Fits) {cut : Bytes} (hpre : cut <+: st.head o)
    (hne : cut ≠ st.head o) (hr : st.reader = some cut) :
    ∃ st', st.readObject = (.error .eof, st') := by
  cases st with
  | group gs =>
    have hr' : gs.reader = some cut := hr
    obtain ⟨s', hparse⟩ := Object.parse_starved h hpre hne {}
    simp only [readObject, GroupStream.readObject, hr', hparse]
    exact ⟨_, rfl⟩
  | track ts =>
    have hr' : ts.reader = some cut := hr
    have hparse : ∃ s', TrackStream.parseObject {} cut = (.error .eof, s', []) := by
      obtain ⟨hcut, hne'⟩ | ⟨cut', rfl, hcut, hne'⟩ := strict_prefix_append hpre hne
      · exact ⟨_, bind_error (read_starves h.groupID hcut hne' _)⟩
      · obtain ⟨s', hobject⟩ := Object.parse_starved h hcut hne' {}
        exact ⟨s', (bind_ok ((exact_read h.groupID).reads cut')).trans (bind_error hobject)⟩
    obtain ⟨s', hparse⟩ := hparse
    simp only [readObject, TrackStream.readObject, hr', hparse]
    exact ⟨_, rfl⟩

/-- The stream has ended. -/
theorem readObject_nil (hr : st.reader = some []) : ∃ st', st.readObject = (.error .eof, st') := by
  have hfits : Object.Fits {} := by decide
  exact readObject_starved hfits List.nil_prefix (st.head_ne_nil hfits).symm hr

/-! ## the objects of a stream -/

/-- `ReadObject` until it fails, at most `n` times: the objects with their groups,
and the error. -/
def readObjects : Nat → MOQTStream → List (Nat × Object) × Option WireError
  | 0, _ => ([], none)
  | n + 1, st =>
    match st.readObject with
    | (.error e, _) => ([], some e)
    | (.ok x, st') => (x :: (readObjects n st').1, (readObjects n st').2)

/-- Each object takes a byte, so there are no more objects than bytes. -/
def readAll (st : MOQTStream) : List (Nat × Object) × Option WireError :=
  readObjects ((st.reader.getD []).length + 1) st

/-- Group, id and payload. -/
abbrev Content : Type := Nat × Nat × Bytes

def contentOf (x : Nat × Object) : Content := (x.1, x.2.id, x.2.payload)

/-- An object as the reader should get it. -/
def content (st : MOQTStream) (o : WireObject) : Content :=
  (st.groupOf o.1, o.1.id, o.1.payload)

/-- The objects that are complete in the first `n` bytes. -/
def complete (st : MOQTStream) : List WireObject → Nat → List WireObject
  | [], _ => []
  | o :: os, n =>
    if (st.encode o).length ≤ n then o :: st.complete os (n - (st.encode o).length) else []

/-- The object whose payload is cut after `n` bytes, as the reader gets it. -/
def torn (st : MOQTStream) : List WireObject → Nat → Option Content
  | [], _ => none
  | o :: os, n =>
    if (st.encode o).length ≤ n then st.torn os (n - (st.encode o).length)
    else if (st.head o.1).length ≤ n then
      some (st.groupOf o.1, o.1.id,
        zeroFilled o.1.payload.length (o.1.payload.take (n - (st.head o.1).length)))
    else none

theorem complete_sublist (st : MOQTStream) (objects : List WireObject) (n : Nat) :
    (st.complete objects n).Sublist objects := by
  induction objects generalizing n with
  | nil => exact List.Sublist.refl _
  | cons o os ih =>
    rw [complete]
    split
    · exact (ih _).cons_cons o
    · exact List.nil_sublist _

theorem complete_congr {st st' : MOQTStream} (h : st.groupID = st'.groupID)
    (objects : List WireObject) (n : Nat) : st.complete objects n = st'.complete objects n := by
  induction objects generalizing n with
  | nil => rfl
  | cons o os ih => simp only [complete, encode_congr h, ih]

theorem torn_congr {st st' : MOQTStream} (h : st.groupID = st'.groupID)
    (objects : List WireObject) (n : Nat) : st.torn objects n = st'.torn objects n := by
  induction objects generalizing n with
  | nil => rfl
  | cons o os ih => simp only [torn, encode_congr h, head_congr h, groupOf, h, ih]

theorem content_congr {st st' : MOQTStream} (h : st.groupID = st'.groupID) :
    st.content = st'.content := by
  funext o
  simp only [content, groupOf, h]

theorem readObjects_head (fuel : Nat) {o : Object} (h : o.Fits) {r : Bytes}
    (hr : st.reader = some (st.head o ++ r)) :
    ∃ st', st'.groupID = st.groupID ∧ st'.reader = some (r.drop o.payload.length) ∧
      ((readObjects (fuel + 1) st).1.map contentOf =
        (st.groupOf o, o.id, zeroFilled o.payload.length r) ::
          (readObjects fuel st').1.map contentOf) ∧
      (readObjects (fuel + 1) st).2 = (readObjects fuel st').2 := by
  obtain ⟨object, st', hrun, hid, hpayload, hgroup, hreader⟩ := readObject_head h hr
  refine ⟨st', hgroup, hreader, ?_, ?_⟩
  · simp [readObjects, hrun, contentOf, hid, hpayload]
  · simp only [readObjects, hrun]

theorem take_complete {o : WireObject} {n : Nat} (rest : Bytes) (h : (st.encode o).length ≤ n) :
    (st.encode o ++ rest).take n =
      st.head o.1 ++ (o.1.payload ++ rest.take (n - (st.encode o).length)) := by
  rw [List.take_append, List.take_of_length_le h, encode, List.append_assoc]

theorem take_cut {o : WireObject} {n : Nat} (rest : Bytes) (h : ¬ (st.encode o).length ≤ n) :
    (st.encode o ++ rest).take n =
      (st.head o.1).take n ++ o.1.payload.take (n - (st.head o.1).length) := by
  rw [List.take_append_of_le_length (by omega), encode, List.take_append]

theorem readObjects_eof (fuel : Nat) {st' : MOQTStream}
    (h : st.readObject = (.error .eof, st')) : readObjects (fuel + 1) st = ([], some .eof) := by
  simp only [readObjects, h]

variable (objects : List WireObject)

/-- **Reading a cut stream**: from the first `n` bytes of the objects the loop gets
the complete ones and the torn one, and ends with `io.EOF`. -/
theorem readObjects_take (n fuel : Nat) (st : MOQTStream)
    (hr : st.reader = some ((objects.flatMap st.encode).take n))
    (hfuel : ((objects.flatMap st.encode).take n).length < fuel) :
    (readObjects fuel st).1.map contentOf =
        (st.complete objects n).map st.content ++ (st.torn objects n).toList ∧
      (readObjects fuel st).2 = some .eof := by
  -- the cut falls after the first object, inside its payload, or inside its head
  induction objects generalizing n fuel st with
  | nil =>
    obtain ⟨fuel, rfl⟩ := Nat.exists_eq_add_of_lt hfuel
    rw [List.flatMap_nil, List.take_nil] at hr
    obtain ⟨st', hrun⟩ := readObject_nil hr
    rw [readObjects_eof _ hrun]
    exact ⟨rfl, rfl⟩
  | cons o os ih =>
    obtain ⟨fuel, rfl⟩ : ∃ k, fuel = k + 1 := ⟨fuel - 1, by omega⟩
    have hpos := List.length_pos_iff.mpr (st.head_ne_nil o.2)
    rw [List.flatMap_cons] at hr hfuel
    by_cases hall : (st.encode o).length ≤ n
    · rw [take_complete _ hall] at hr hfuel
      obtain ⟨st', hgroup, hreader, hobjects, herr⟩ := readObjects_head fuel o.2 hr
      rw [List.drop_left, ← encode_congr hgroup] at hreader
      have hrest : ((os.flatMap st'.encode).take (n - (st'.encode o).length)).length < fuel := by
        rw [List.length_append, List.length_append, ← encode_congr hgroup] at hfuel
        omega
      have hih := ih (n - (st'.encode o).length) fuel st' hreader hrest
      rw [hobjects, herr, zeroFilled_append, hih.1, hih.2, complete, torn, if_pos hall, if_pos hall,
        complete_congr hgroup, torn_congr hgroup, content_congr hgroup, encode_congr hgroup]
      exact ⟨rfl, rfl⟩
    · rw [take_cut _ hall] at hr hfuel
      rw [complete, torn, if_neg hall, if_neg hall]
      by_cases hhead : (st.head o.1).length ≤ n
      · rw [List.take_of_length_le hhead] at hr hfuel
        obtain ⟨st', hgroup, hreader, hobjects, herr⟩ := readObjects_head fuel o.2 hr
        rw [List.drop_eq_nil_of_le (List.length_take_le' _ _)] at hreader
        rw [List.length_append] at hfuel
        obtain ⟨fuel, rfl⟩ : ∃ k, fuel = k + 1 := ⟨fuel - 1, by omega⟩
        obtain ⟨st'', hrun⟩ := readObject_nil hreader
        rw [hobjects, herr, readObjects_eof _ hrun, if_pos hhead]
        exact ⟨rfl, rfl⟩
      · rw [show n - (st.head o.1).length = 0 by omega, List.take_zero, List.append_nil] at hr
        have hne : (st.head o.1).take n ≠ st.head o.1 := by
          rw [Ne, List.take_eq_self_iff]
          exact hhead
        obtain ⟨st', hrun⟩ := readObject_starved o.2 (List.take_prefix n _) hne hr
        rw [readObjects_eof _ hrun, if_neg hhead]
        exact ⟨rfl, rfl⟩

def setReader (r : Bytes) : MOQTStream → MOQTStream
  | .group gs => .group { gs with reader := some r }
  | .track ts => .track { ts with reader := some r }

@[simp] theorem reader_setReader (st : MOQTStream) (r : Bytes) : (st.setReader r).reader = some r := by
  cases st <;> rfl

@[simp] theorem trackAlias_setReader (st : MOQTStream) (r : Bytes) :
    (st.setReader r).trackAlias = st.trackAlias := by
  cases st <;> rfl

@[simp] theorem groupID_setReader (st : MOQTStream) (r : Bytes) :
    (st.setReader r).groupID = st.groupID := by
  cases st <;> rfl

theorem readAll_take (n : Nat) (st : MOQTStream)
    (hr : st.reader = some ((objects.flatMap st.encode).take n)) :
    st.readAll.1.map contentOf =
        (st.complete objects n).map st.content ++ (st.torn objects n).toList ∧
      st.readAll.2 = some .eof :=
  readObjects_take objects n _ st hr (by rw [hr]; exact Nat.lt_succ_self _)

/-- Nothing is cut from a stream that is read to its end. -/
theorem complete_all (st : MOQTStream) (objects : List WireObject) :
    st.complete objects (objects.flatMap st.encode).length = objects ∧
      st.torn objects (objects.flatMap st.encode).length = none := by
  induction objects with
  | nil => exact ⟨rfl, rfl⟩
  | cons o os ih =>
    have hsub : ((o :: os).flatMap st.encode).length - (st.encode o).length =
        (os.flatMap st.encode).length := by simp
    have hle : (st.encode o).length ≤ ((o :: os).flatMap st.encode).length := by simp
    rw [complete, torn, if_pos hle, if_pos hle, hsub, ih.1]
    exact ⟨rfl, ih.2⟩

/-- Nothing is read where no byte of the objects has arrived. -/
theorem torn_zero (st : MOQTStream) (objects : List WireObject) : st.torn objects 0 = none := by
  cases objects with
  | nil => rfl
  | cons o os =>
    have hencode := List.length_pos_iff.mpr (st.encode_ne_nil o)
    have hhead := List.length_pos_iff.mpr (st.head_ne_nil o.2)
    rw [torn, if_neg (by omega), if_neg (by omega)]

end MOQTStream

/-! ## headers -/

/-- The calls that make a stream. -/
inductive NewStream where
  | group (subid groupid trackAlias : Nat)
  | track (subid trackAlias : Nat)
  deriving DecidableEq, Repr

namespace NewStream

/-- The arguments fit variable-length integers. -/
def Fits : NewStream → Prop
  | .group subid groupid trackAlias => subid < 2 ^ 62 ∧ groupid < 2 ^ 62 ∧ trackAlias < 2 ^ 62
  | .track subid trackAlias => subid < 2 ^ 62 ∧ trackAlias < 2 ^ 62

instance : (c : NewStream) → Decidable c.Fits
  | .group _ _ _ => inferInstanceAs (Decidable (_ ∧ _ ∧ _))
  | .track _ _ => inferInstanceAs (Decidable (_ ∧ _))

def create : NewStream → MOQTStream
  | .group subid groupid trackAlias => .group (GroupStream.newGroupStream subid groupid trackAlias)
  | .track subid trackAlias => .track (TrackStream.newTrackStream subid trackAlias)

def subid : NewStream → Nat
  | .group subid _ _ => subid
  | .track subid _ => subid

def trackAlias : NewStream → Nat
  | .group _ _ trackAlias => trackAlias
  | .track _ trackAlias => trackAlias

def groupid : NewStream → Option Nat
  | .group _ groupid _ => some groupid
  | .track _ _ => none

/-- The header as it is written. -/
def header : NewStream → Bytes
  | .group subid groupid trackAlias =>
    encode STREAM_HEADER_GROUP ++
      (encode subid ++ (encode trackAlias ++ (encode groupid ++ encode 0)))
  | .track subid _ => encode STREAM_HEADER_TRACK ++ (encode subid ++ (encode 0 ++ encode 0))

theorem group_lt : STREAM_HEADER_GROUP < 2 ^ 62 := by decide

theorem track_lt : STREAM_HEADER_TRACK < 2 ^ 62 := by decide

theorem zero_lt : 0 < 2 ^ 62 := by decide

variable {c : NewStream}

theorem getHeaderBytes_eq (hc : c.Fits) : c.create.getHeaderBytes = some c.header := by
  cases c with
  | group subid groupid trackAlias =>
    obtain ⟨hsub, hgroup, halias⟩ := hc
    simp [create, MOQTStream.getHeaderBytes, GroupStream.getHeaderBytes,
      GroupStream.getHeaderSubIDBytes, GroupStream.newGroupStream, header, append_eq _ group_lt,
      append_eq _ hsub, append_eq _ hgroup, append_eq _ halias, append_eq _ zero_lt]
  | track subid trackAlias =>
    simp [create, MOQTStream.getHeaderBytes, TrackStream.getHeaderBytes,
      TrackStream.getHeaderSubIDBytes, TrackStream.newTrackStream, header, append_eq _ track_lt,
      append_eq _ hc.1, append_eq _ zero_lt]

theorem exact_groupParse {subid groupid trackAlias : Nat} (hgroup : groupid < 2 ^ 62)
    (halias : trackAlias < 2 ^ 62) :
    Exact (GroupStream.parse subid) {} (encode trackAlias ++ (encode groupid ++ encode 0)) ()
      (GroupStream.newGroupStream subid groupid trackAlias) := by
  refine Exact.update_bind _ ?_
  exact (exact_read halias).assign.bind
    ((exact_read hgroup).assign.bind (exact_read zero_lt).assign)

variable {subid : Nat}

theorem exact_trackParse (trackAlias : Nat) :
    Exact (TrackStream.parse subid) {} (encode 0 ++ encode 0) ()
      (TrackStream.newTrackStream subid trackAlias) := by
  refine Exact.update_bind _ ?_
  exact (exact_read zero_lt).assign.bind (exact_read zero_lt).assign

theorem parse_group (hsub : subid < 2 ^ 62) (r : Bytes) :
    MOQTStream.parse (encode STREAM_HEADER_GROUP ++ (encode subid ++ r)) =
      match GroupStream.parse subid {} r with
      | (.error e, _, _) => .error e
      | (.ok (), gs, r) => .ok (subid, .group { gs with reader := some r }) := by
  have htype : Reads (read : WireParse Unit Nat) () _ _ () := (exact_read group_lt).reads
  have hread : Reads (read : WireParse Unit Nat) () _ _ () := (exact_read hsub).reads
  simp only [MOQTStream.parse, htype (encode subid ++ r), hread r]
  rfl

theorem parse_track (hsub : subid < 2 ^ 62) (r : Bytes) :
    MOQTStream.parse (encode STREAM_HEADER_TRACK ++ (encode subid ++ r)) =
      match TrackStream.parse subid {} r with
      | (.error e, _, _) => .error e
      | (.ok (), ts, r) => .ok (subid, .track { ts with reader := some r }) := by
  have htype : Reads (read : WireParse Unit Nat) () _ _ () := (exact_read track_lt).reads
  have hread : Reads (read : WireParse Unit Nat) () _ _ () := (exact_read hsub).reads
  simp only [MOQTStream.parse, htype (encode subid ++ r), hread r]
  rfl

/-- A stream that ends inside its type or its subscribe id. -/
theorem parse_starved {htype subid : Nat} (hknown : htype = STREAM_HEADER_GROUP ∨
    htype = STREAM_HEADER_TRACK) (hsub : subid < 2 ^ 62) {cut : Bytes}
    (hpre : cut <+: encode htype ++ encode subid) (hne : cut ≠ encode htype ++ encode subid) :
    MOQTStream.parse cut = .error .eof := by
  have hlt : htype < 2 ^ 62 := by
    obtain rfl | rfl := hknown
    · exact group_lt
    · exact track_lt
  obtain ⟨hcut, hne'⟩ | ⟨cut', rfl, hcut, hne'⟩ := strict_prefix_append hpre hne
  · simp only [MOQTStream.parse, read_starves hlt hcut hne']
    rfl
  · have hread : Reads (read : WireParse Unit Nat) () _ _ () := (exact_read hlt).reads
    have hnot : ¬ (htype ≠ STREAM_HEADER_GROUP ∧ htype ≠ STREAM_HEADER_TRACK) := by tauto
    simp only [MOQTStream.parse, hread cut', if_neg hnot, read_starves hsub hcut hne']
    rfl

theorem parse_header (hc : c.Fits) (r : Bytes) :
    MOQTStream.parse (c.header ++ r) = .ok (c.subid, c.create.setReader r) := by
  cases c with
  | group subid groupid trackAlias =>
    obtain ⟨hsub, hgroup, halias⟩ := hc
    rw [header, List.append_assoc, List.append_assoc, parse_group hsub,
      (exact_groupParse hgroup halias).reads]
    rfl
  | track subid trackAlias =>
    rw [header, List.append_assoc, List.append_assoc, parse_track hc.1,
      (exact_trackParse trackAlias).reads]
    rfl

theorem parse_cut (hc : c.Fits) {cut : Bytes} (hpre : cut <+: c.header) (hne : cut ≠ c.header) :
    ∃ e, MOQTStream.parse cut = .error e := by
  cases c with
  | group subid groupid trackAlias =>
    obtain ⟨hsub, hgroup, halias⟩ := hc
    rw [header, ← List.append_assoc] at hpre hne
    obtain ⟨hcut, hne'⟩ | ⟨cut', rfl, hcut, hne'⟩ := strict_prefix_append hpre hne
    · exact ⟨_, parse_starved (Or.inl rfl) hsub hcut hne'⟩
    · obtain ⟨e, gs, hrun⟩ := (exact_groupParse hgroup halias).starves cut' hcut hne'
      rw [List.append_assoc, parse_group hsub, hrun]
      exact ⟨e, rfl⟩
  | track subid trackAlias =>
    rw [header, ← List.append_assoc] at hpre hne
    obtain ⟨hcut, hne'⟩ | ⟨cut', rfl, hcut, hne'⟩ := strict_prefix_append hpre hne
    · exact ⟨_, parse_starved (Or.inr rfl) hc.1 hcut hne'⟩
    · obtain ⟨e, ts, hrun⟩ := (exact_trackParse trackAlias).starves cut' hcut hne'
      rw [List.append_assoc, parse_track hc.1, hrun]
      exact ⟨e, rfl⟩

/-! ## whole streams -/

/-- One round of the copy loop of `Pipe`. -/
def appendObject (c : NewStream) (data : Bytes) (o : WireObject) : Option Bytes := do
  let bytes ← c.create.objectBytes o.1
  return data ++ bytes

/-- The header and what `Pipe` emits for the objects. -/
def send (c : NewStream) (objects : List WireObject) : Option Bytes := do
  let header ← c.create.getHeaderBytes
  objects.foldlM c.appendObject header

theorem send_eq (hc : c.Fits) (objects : List WireObject) :
    c.send objects = some (c.header ++ objects.flatMap c.create.encode) := by
  have hfold : ∀ (os : List WireObject) (data : Bytes),
      os.foldlM c.appendObject data = some (data ++ os.flatMap c.create.encode) := by
    intro os
    induction os with
    | nil => simp
    | cons o os ih =>
      intro data
      have hround : c.appendObject data o = some (data ++ c.create.encode o) := by
        simp [appendObject, MOQTStream.objectBytes_eq]
      simp [List.foldlM_cons, hround, ih]
  rw [send, getHeaderBytes_eq hc]
  exact hfold objects c.header

def received (r : Bytes) : List MOQTStream.Content :=
  match MOQTStream.parse r with
  | .error _ => []
  | .ok (_, st) => st.readAll.1.map MOQTStream.contentOf

/-- The contents that were sent. -/
def contents (c : NewStream) (objects : List WireObject) : List MOQTStream.Content :=
  objects.map c.create.content

/-- The object torn by a cut of the stream after `n` bytes. -/
def torn (c : NewStream) (objects : List WireObject) (n : Nat) : Option MOQTStream.Content :=
  c.create.torn objects (n - c.header.length)

/-- The bytes give the subscribe id, the alias, the group and exactly the objects
back, and then `io.EOF`. -/
def RoundTrips (c : NewStream) (objects : List WireObject) (r : Bytes) : Prop :=
  ∃ st, MOQTStream.parse r = .ok (c.subid, st) ∧ st.subID = c.subid ∧
    st.trackAlias = c.trackAlias ∧ st.groupID = c.groupid ∧
    st.readAll.1.map MOQTStream.contentOf = c.contents objects ∧ st.readAll.2 = some .eof

/-- The constructor keeps the alias: `NewTrackStream` does not. -/
def KeepsAlias : NewStream → Prop
  | .group _ _ _ => True
  | .track _ trackAlias => trackAlias = 0

theorem trackAlias_create_iff (c : NewStream) :
    c.create.trackAlias = c.trackAlias ↔ c.KeepsAlias := by
  cases c with
  | group subid groupid trackAlias => exact iff_of_true rfl trivial
  | track subid trackAlias => exact eq_comm

/-- The reader of the parsed stream stands at the objects. -/
theorem readAll_parsed (c : NewStream) (objects : List WireObject) (n : Nat) :
    (c.create.setReader ((objects.flatMap c.create.encode).take n)).readAll.1.map
        MOQTStream.contentOf =
      (c.create.complete objects n).map c.create.content ++ (c.create.torn objects n).toList ∧
    (c.create.setReader ((objects.flatMap c.create.encode).take n)).readAll.2 = some .eof := by
  have hgroup := c.create.groupID_setReader ((objects.flatMap c.create.encode).take n)
  have h := MOQTStream.readAll_take objects n
    (c.create.setReader ((objects.flatMap c.create.encode).take n))
    (by rw [MOQTStream.reader_setReader, MOQTStream.encode_congr hgroup])
  rw [MOQTStream.complete_congr hgroup, MOQTStream.torn_congr hgroup,
    MOQTStream.content_congr hgroup] at h
  exact h

theorem roundTrips_iff (hc : c.Fits) (objects : List WireObject) :
    c.RoundTrips objects (c.header ++ objects.flatMap c.create.encode) ↔ c.KeepsAlias := by
  have hparse := parse_header hc (objects.flatMap c.create.encode)
  have hread := c.readAll_parsed objects (objects.flatMap c.create.encode).length
  obtain ⟨hcomplete, htorn⟩ := c.create.complete_all objects
  rw [List.take_length, hcomplete, htorn, Option.toList_none, List.append_nil] at hread
  rw [← trackAlias_create_iff]
  constructor
  · rintro ⟨st, hst, -, halias, -⟩
    rw [hparse, Except.ok.injEq, Prod.mk.injEq] at hst
    rw [← hst.2, MOQTStream.trackAlias_setReader] at halias
    exact halias
  · intro halias
    refine ⟨_, hparse, ?_, ?_, ?_, hread.1, hread.2⟩
    · cases c <;> rfl
    · rw [MOQTStream.trackAlias_setReader, halias]
    · cases c <;> rfl

theorem received_cut (hc : c.Fits) (objects : List WireObject) {p : Bytes}
    (hpre : p <+: c.header ++ objects.flatMap c.create.encode)
    (hne : p ≠ c.header ++ objects.flatMap c.create.encode) :
    ∃ whole : List WireObject, whole.Sublist objects ∧
      received p = whole.map c.create.content ++ (c.torn objects p.length).toList := by
  obtain ⟨hcut, hne'⟩ | ⟨q, rfl, hcut, -⟩ := strict_prefix_append hpre hne
  · obtain ⟨e, hparse⟩ := parse_cut hc hcut hne'
    have hzero : p.length - c.header.length = 0 := Nat.sub_eq_zero_of_le hcut.length_le
    refine ⟨[], List.nil_sublist _, ?_⟩
    rw [received, hparse, torn, hzero, MOQTStream.torn_zero]
    rfl
  · have hq : q = (objects.flatMap c.create.encode).take q.length := List.prefix_iff_eq_take.mp hcut
    have hlen : (c.header ++ q).length - c.header.length = q.length := by simp
    have hread := (c.readAll_parsed objects q.length).1
    rw [← hq] at hread
    refine ⟨_, c.create.complete_sublist objects q.length, ?_⟩
    rw [received, parse_header hc, torn, hlen]
    exact hread

def firstObject : WireObject := ⟨{ groupID := 7, id := 1, payload := [5, 6] }, by decide⟩

end NewStream

end MoqQuic.Wire
