import MoqQuic.Wire.Message

/-!
# MoqQuic.Wire.RoundTrip

Control messages survive encoding and parsing.

Each message type gets the closed form of its encoding, `getBytes_eq`, and the
proof that its `Parse` reads it back, `reads_parse`.  Two types do not round trip:

* `SUBSCRIBE_OK` writes the object id before the group id and reads both into
  `largestObjectId`;
* `SUBSCRIBE_DONE` does not write its type.
-/

namespace MoqQuic.Wire

open Parse Quicvarint

/-! ## strings -/

def encodeString (str : Bytes) : Bytes := encode str.length ++ str

theorem appendVarIntString_eq (data : Bytes) {str : Bytes} (h : str.length < 2 ^ 62) :
    appendVarIntString data str = some (data ++ encodeString str) := by
  simp [appendVarIntString, append_eq _ h, encodeString]

variable {σ : Type}

theorem reads_parseVarIntString {str : Bytes} (h : str.length < 2 ^ 62) (s : σ) :
    Reads parseVarIntString s (encodeString str) str s :=
  (exact_read h).reads.bind (exact_readFull str s).reads

/-! ## parameters -/

/-- A role or path parameter under its own type, with a value that can be sent. -/
def Parameter.StoredUnder : Parameter → Nat → Prop
  | .int ptype pvalue, key => ptype = ROLE_PARAM ∧ key = ptype ∧ pvalue < 2 ^ 62
  | .string ptype pvalue, key => ptype = ROLE_PATH ∧ key = ptype ∧ pvalue.length < 2 ^ 62

/-- The bytes of a parameter after its type. -/
def Parameter.value : Parameter → Bytes
  | .int _ pvalue => encode ((len pvalue).getD 0) ++ encode pvalue
  | .string _ pvalue => encodeString pvalue

/-- The bytes of an entry of the parameter block. -/
def entryBytes (e : Sigma fun _ : Nat => Parameter) : Bytes := encode e.1 ++ e.2.value

theorem len_eq {i : Nat} (h : i < 2 ^ 62) : ∃ n < 2 ^ 62, len i = some n := by
  unfold len maxVarInt1 maxVarInt2 maxVarInt4 maxVarInt8
  split
  · exact ⟨1, by decide, rfl⟩
  · split
    · exact ⟨2, by decide, rfl⟩
    · split
      · exact ⟨4, by decide, rfl⟩
      · rw [if_pos (by omega)]
        exact ⟨8, by decide, rfl⟩

variable {p : Parameter} {key : Nat}

theorem Parameter.getBytes_eq (h : p.StoredUnder key) :
    p.getBytes = some (entryBytes ⟨key, p⟩) := by
  cases p with
  | int ptype pvalue =>
    obtain ⟨rfl, rfl, hv⟩ := h
    obtain ⟨n, hn, hlen⟩ := len_eq hv
    have hrole : ROLE_PARAM < 2 ^ 62 := by decide
    simp [Parameter.getBytes, append_eq _ hrole, hlen, append_eq _ hn, append_eq _ hv, entryBytes,
      Parameter.value]
  | string ptype pvalue =>
    obtain ⟨rfl, rfl, hv⟩ := h
    have hpath : ROLE_PATH < 2 ^ 62 := by decide
    simp [Parameter.getBytes, append_eq _ hpath, appendVarIntString_eq _ hv, entryBytes,
      Parameter.value]

theorem Parameter.key_lt (h : p.StoredUnder key) : key < 2 := by
  cases p with
  | int | string =>
    obtain ⟨rfl, rfl, -⟩ := h
    decide

theorem Parameter.reads_parse (h : p.StoredUnder key) (s : σ) :
    Reads (Parameter.parse key) s p.value p s := by
  cases p with
  | int ptype pvalue =>
    obtain ⟨rfl, rfl, hv⟩ := h
    obtain ⟨n, hn, hlen⟩ := len_eq hv
    rw [Parameter.parse, if_pos rfl, Parameter.value, hlen]
    exact (exact_read hn).reads.bind (exact_read hv).reads.bind_pure
  | string ptype pvalue =>
    obtain ⟨rfl, rfl, hv⟩ := h
    rw [Parameter.parse, if_neg (by decide), if_pos rfl, Parameter.value]
    exact (reads_parseVarIntString hv s).bind_pure

namespace Parameters

/-- Every parameter is a role or path parameter under its own type. -/
def Wf (params : Parameters) : Prop := ∀ e ∈ params.entries, e.2.StoredUnder e.1

/-- The block as it is written: the number of parameters and the entries. -/
def block (order : Order) : Bytes := encode order.length ++ order.flatMap entryBytes

variable {params : Parameters} {order : Order}

theorem nodup_keys (horder : params.entries = ↑order) : (order.map Sigma.fst).Nodup := by
  have h := params.nodupKeys
  rw [horder] at h
  exact h

/-- There are at most two such parameters. -/
theorem Wf.length_le (hwf : params.Wf) (horder : params.entries = ↑order) : order.length ≤ 2 := by
  have hsub : order.map Sigma.fst ⊆ [0, 1] := by
    intro key hkey
    obtain ⟨e, he, rfl⟩ := List.mem_map.mp hkey
    have hlt := Parameter.key_lt (hwf e (by rw [horder]; exact Multiset.mem_coe.mpr he))
    simp only [List.mem_cons, List.not_mem_nil, or_false]
    omega
  have hle := ((nodup_keys horder).subperm hsub).length_le
  rw [List.length_map] at hle
  exact hle

theorem appendBytes_eq (hwf : params.Wf) (horder : params.entries = ↑order) (data : Bytes) :
    params.appendBytes order data = some (data ++ block order) := by
  have hfold : ∀ (es : Order) (data : Bytes), (∀ e ∈ es, e.2.StoredUnder e.1) →
      es.foldlM appendEntry data = some (data ++ es.flatMap entryBytes) := by
    intro es
    induction es with
    | nil => simp
    | cons e es ih =>
      intro data h
      rw [List.forall_mem_cons] at h
      have hentry : appendEntry data e = some (data ++ entryBytes e) := by
        simp [appendEntry, Parameter.getBytes_eq h.1]
      simp [List.foldlM_cons, hentry, ih _ h.2]
  have hlt : order.length < 2 ^ 62 := Nat.lt_of_le_of_lt (hwf.length_le horder) (by decide)
  have hall : ∀ e ∈ order, e.2.StoredUnder e.1 := fun e he =>
    hwf e (by rw [horder]; exact Multiset.mem_coe.mpr he)
  rw [appendBytes, horder, Multiset.coe_card, append_eq _ hlt]
  simp only [Option.bind_eq_bind, Option.bind_some]
  rw [hfold order _ hall, block, List.append_assoc]

/-- Inserting the entries one by one, in any order, gives the map back. -/
theorem foldl_insert (horder : params.entries = ↑order) :
    order.foldl (fun (m : Parameters) e => m.insert e.1 e.2) ∅ = params := by
  have hfold : ∀ (es : Order) (m : Parameters), (es.map Sigma.fst).Nodup → (∀ e ∈ es, e.1 ∉ m) →
      (es.foldl (fun (m : Parameters) e => m.insert e.1 e.2) m).entries = ↑es + m.entries := by
    intro es
    induction es with
    | nil => simp
    | cons e es ih =>
      intro m hnodup hnew
      rw [List.map_cons, List.nodup_cons] at hnodup
      rw [List.forall_mem_cons] at hnew
      have hnew' : ∀ e' ∈ es, e'.1 ∉ m.insert e.1 e.2 := by
        intro e' he' hin
        rw [Finmap.mem_insert] at hin
        obtain heq | hin := hin
        · exact hnodup.1 (heq ▸ List.mem_map_of_mem he')
        · exact hnew.2 e' he' hin
      rw [List.foldl_cons, ih _ hnodup.2 hnew', Finmap.entries_insert_of_notMem hnew.1]
      simp [← Multiset.cons_coe]
  apply Finmap.ext
  rw [hfold order ∅ (nodup_keys horder) (fun e _ => Finmap.notMem_empty), horder]
  exact Multiset.add_zero _

theorem reads_parse (hwf : params.Wf) (horder : params.entries = ↑order) :
    Reads Parameters.parse ∅ (block order) () params := by
  have hlt : order.length < 2 ^ 62 := Nat.lt_of_le_of_lt (hwf.length_le horder) (by decide)
  refine (exact_read hlt).reads.bind ?_
  rw [← foldl_insert horder]
  refine Reads.times order ∅ fun e he m => ?_
  have hstored : e.2.StoredUnder e.1 := hwf e (by rw [horder]; exact Multiset.mem_coe.mpr he)
  have hkey : e.1 < 2 ^ 62 := Nat.lt_trans (Parameter.key_lt hstored) (by decide)
  exact (exact_read hkey).reads.bind (Parameter.reads_parse hstored m).bind_update

theorem reads_nested (hwf : params.Wf) (horder : params.entries = ↑order) (s : σ) :
    Reads (nested ∅ Parameters.parse : WireParse σ _) s (block order) (.ok (), params) s :=
  (reads_parse hwf horder).nested

theorem reads_parseChecked (hwf : params.Wf) (horder : params.entries = ↑order) (s : σ) :
    Reads parseChecked s (block order) params s := by
  rw [← List.append_nil (block order)]
  exact (reads_nested hwf horder s).bind (Reads.pure params s)

end Parameters

/-! ## one message type at a time -/

variable {order : Parameters.Order}

namespace ClientSetup

structure Wf (m : ClientSetup) : Prop where
  versions : ∀ v ∈ m.supportedVersions, v < 2 ^ 62
  nversions : m.supportedVersions.length < 2 ^ 62
  params : m.params.Wf

/-- The message without its type. -/
def body (m : ClientSetup) (order : Parameters.Order) : Bytes :=
  encode m.supportedVersions.length ++
    (m.supportedVersions.flatMap encode ++ Parameters.block order)

theorem getBytes_eq {m : ClientSetup} (h : m.Wf) (horder : m.params.entries = ↑order) :
    m.getBytes order = some (encode CLIENT_SETUP ++ m.body order) := by
  have hfold : ∀ (vs : List Nat) (data : Bytes), (∀ v ∈ vs, v < 2 ^ 62) →
      vs.foldlM append data = some (data ++ vs.flatMap encode) := by
    intro vs
    induction vs with
    | nil => simp
    | cons v vs ih =>
      intro data hvs
      rw [List.forall_mem_cons] at hvs
      simp [List.foldlM_cons, append_eq _ hvs.1, ih _ hvs.2]
  have htype : CLIENT_SETUP < 2 ^ 62 := by decide
  simp [getBytes, body, append_eq _ htype, append_eq _ h.nversions, hfold _ _ h.versions,
    Parameters.appendBytes_eq h.params horder]

theorem reads_parse {m : ClientSetup} (h : m.Wf) (horder : m.params.entries = ↑order) :
    Reads parse {} (m.body order) () m := by
  have hloop : ∀ (vs : List Nat) (m : ClientSetup),
      vs.foldl addVersion m = { m with supportedVersions := m.supportedVersions ++ vs } := by
    intro vs
    induction vs with
    | nil => simp
    | cons v vs ih =>
      intro m
      rw [List.foldl_cons, ih]
      simp [addVersion]
  have hversions := Reads.times m.supportedVersions {} fun v hv m =>
    ((exact_read (h.versions v hv)).reads.bind_update : Reads parseVersion m _ () (addVersion m v))
  rw [hloop] at hversions
  refine (exact_read h.nversions).reads.bind (hversions.bind ?_)
  exact (Parameters.reads_nested h.params horder _).bind_update

end ClientSetup

namespace ServerSetup

structure Wf (m : ServerSetup) : Prop where
  selectedVersion : m.selectedVersion < 2 ^ 62
  params : m.params.Wf

/-- The message without its type. -/
def body (m : ServerSetup) (order : Parameters.Order) : Bytes :=
  encode m.selectedVersion ++ Parameters.block order

theorem getBytes_eq {m : ServerSetup} (h : m.Wf) (horder : m.params.entries = ↑order) :
    m.getBytes order = some (encode SERVER_SETUP ++ m.body order) := by
  have htype : SERVER_SETUP < 2 ^ 62 := by decide
  simp [getBytes, body, append_eq _ htype, append_eq _ h.selectedVersion,
    Parameters.appendBytes_eq h.params horder]

theorem reads_parse {m : ServerSetup} (h : m.Wf) (horder : m.params.entries = ↑order) :
    Reads parse {} (m.body order) () m :=
  (exact_read h.selectedVersion).reads.assign.bind
    (Parameters.reads_nested h.params horder _).bind_update

end ServerSetup

namespace Announce

structure Wf (m : Announce) : Prop where
  trackNameSpace : m.trackNameSpace.length < 2 ^ 62
  params : m.params.Wf

/-- The message without its type. -/
def body (m : Announce) (order : Parameters.Order) : Bytes :=
  encodeString m.trackNameSpace ++ Parameters.block order

theorem getBytes_eq {m : Announce} (h : m.Wf) (horder : m.params.entries = ↑order) :
    m.getBytes order = some (encode ANNOUNCE ++ m.body order) := by
  have htype : ANNOUNCE < 2 ^ 62 := by decide
  simp [getBytes, body, append_eq _ htype, appendVarIntString_eq _ h.trackNameSpace,
    Parameters.appendBytes_eq h.params horder]

theorem reads_parse {m : Announce} (h : m.Wf) (horder : m.params.entries = ↑order) :
    Reads parse {} (m.body order) () m :=
  (reads_parseVarIntString h.trackNameSpace _).assign.bind
    (Parameters.reads_parseChecked h.params horder _).bind_update

end Announce

namespace AnnounceOk

def Wf (m : AnnounceOk) : Prop := m.trackNameSpace.length < 2 ^ 62

/-- The message without its type. -/
def body (m : AnnounceOk) : Bytes := encodeString m.trackNameSpace

theorem getBytes_eq {m : AnnounceOk} (h : m.Wf) :
    m.getBytes = some (encode ANNOUNCE_OK ++ m.body) := by
  have htype : ANNOUNCE_OK < 2 ^ 62 := by decide
  simp [getBytes, body, append_eq _ htype, appendVarIntString_eq _ h]

theorem reads_parse {m : AnnounceOk} (h : m.Wf) : Reads parse {} m.body () m :=
  (reads_parseVarIntString h _).assign

end AnnounceOk

namespace Unsubcribe

def Wf (m : Unsubcribe) : Prop := m.subscriptionID < 2 ^ 62

/-- The message without its type. -/
def body (m : Unsubcribe) : Bytes := encode m.subscriptionID

theorem getBytes_eq {m : Unsubcribe} (h : m.Wf) :
    m.getBytes = some (encode UNSUBSCRIBE ++ m.body) := by
  have htype : UNSUBSCRIBE < 2 ^ 62 := by decide
  simp [getBytes, body, append_eq _ htype, append_eq _ h]

theorem reads_parse {m : Unsubcribe} (h : m.Wf) : Reads parse {} m.body () m :=
  (exact_read h).reads.assign

end Unsubcribe

/-! ## optional fields -/

/-- The field if it is present. -/
def encodeIf (present : Bool) (i : Nat) : Bytes := if present then encode i else []

theorem appendIf_eq {present : Bool} {i : Nat} (h : present = true → i < 2 ^ 62) (data : Bytes) :
    Subscribe.appendIf present data i = some (data ++ encodeIf present i) := by
  cases present with
  | false => simp [Subscribe.appendIf, encodeIf]
  | true => simp [Subscribe.appendIf, encodeIf, append_eq _ (h rfl)]

/-- An optional field is read where it is present, and keeps its zero where not. -/
theorem reads_onlyIf_read {c : σ → Bool} {set : σ → Nat → σ} {s : σ} {v : Nat}
    {present : Bool} (hc : c s = present) (hzero : set s 0 = s) (hv : v < 2 ^ 62)
    (habsent : present = false → v = 0) :
    Reads (onlyIf c (assign Quicvarint.read set) : WireParse σ Unit) s (encodeIf present v) ()
      (set s v) := by
  subst hc
  refine Reads.onlyIf (fun hc => ?_) (fun hc => ?_)
  · rw [hc]
    exact (exact_read hv).reads.assign
  · rw [hc, habsent hc]
    exact ⟨rfl, hzero⟩

namespace Subscribe

/-- The fields fit, and those the filter does not select are zero. -/
structure Wf (m : Subscribe) : Prop where
  subscribeID : m.subscribeID < 2 ^ 62
  trackAlias : m.trackAlias < 2 ^ 62
  trackNameSpace : m.trackNameSpace.length < 2 ^ 62
  trackName : m.trackName.length < 2 ^ 62
  filterType : m.filterType < 2 ^ 62
  startGroup : m.startGroup < 2 ^ 62
  startObject : m.startObject < 2 ^ 62
  endGroup : m.endGroup < 2 ^ 62
  endObject : m.endObject < 2 ^ 62
  noStart : m.hasStart = false → m.startGroup = 0 ∧ m.startObject = 0
  noEnd : m.hasEnd = false → m.endGroup = 0 ∧ m.endObject = 0
  params : m.params.Wf

/-- The message without its type. -/
def body (m : Subscribe) (order : Parameters.Order) : Bytes :=
  encode m.subscribeID ++ (encode m.trackAlias ++ (encodeString m.trackNameSpace ++
    (encodeString m.trackName ++ (encode m.filterType ++ (encodeIf m.hasStart m.startGroup ++
      (encodeIf m.hasStart m.startObject ++ (encodeIf m.hasEnd m.endGroup ++
        (encodeIf m.hasEnd m.endObject ++ Parameters.block order))))))))

theorem getBytes_eq {m : Subscribe} (h : m.Wf) (horder : m.params.entries = ↑order) :
    m.getBytes order = some (encode SUBSCRIBE ++ m.body order) := by
  have htype : SUBSCRIBE < 2 ^ 62 := by decide
  simp [getBytes, body, append_eq _ htype, append_eq _ h.subscribeID, append_eq _ h.trackAlias,
    appendVarIntString_eq _ h.trackNameSpace, appendVarIntString_eq _ h.trackName,
    append_eq _ h.filterType, appendIf_eq (fun _ => h.startGroup),
    appendIf_eq (fun _ => h.startObject), appendIf_eq (fun _ => h.endGroup),
    appendIf_eq (fun _ => h.endObject), Parameters.appendBytes_eq h.params horder]

theorem reads_parse {m : Subscribe} (h : m.Wf) (horder : m.params.entries = ↑order) :
    Reads parse {} (m.body order) () m := by
  refine (exact_read h.subscribeID).reads.assign.bind ?_
  refine (exact_read h.trackAlias).reads.assign.bind ?_
  refine (reads_parseVarIntString h.trackNameSpace _).assign.bind ?_
  refine (reads_parseVarIntString h.trackName _).assign.bind ?_
  refine (exact_read h.filterType).reads.assign.bind ?_
  refine Reads.bind (reads_onlyIf_read rfl rfl h.startGroup fun hc => (h.noStart hc).1) ?_
  refine Reads.bind (reads_onlyIf_read rfl rfl h.startObject fun hc => (h.noStart hc).2) ?_
  refine Reads.bind (reads_onlyIf_read rfl rfl h.endGroup fun hc => (h.noEnd hc).1) ?_
  refine Reads.bind (reads_onlyIf_read rfl rfl h.endObject fun hc => (h.noEnd hc).2) ?_
  exact (Parameters.reads_parseChecked h.params horder _).bind_update

end Subscribe

namespace SubscribeOk

/-- The fields fit, and the ids are zero where the content does not exist. -/
structure Wf (m : SubscribeOk) : Prop where
  subscribeID : m.subscribeID < 2 ^ 62
  expires : m.expires < 2 ^ 62
  largestGroupId : m.largestGroupId < 2 ^ 62
  largestObjectId : m.largestObjectId < 2 ^ 62
  noContent : m.contentExists ≠ 1 → m.largestGroupId = 0 ∧ m.largestObjectId = 0

/-- The message without its type: the object id comes before the group id. -/
def body (m : SubscribeOk) : Bytes :=
  encode m.subscribeID ++ (encode m.expires ++ ([m.contentExists] ++
    if m.contentExists = 1 then encode m.largestObjectId ++ encode m.largestGroupId else []))

theorem getBytes_eq {m : SubscribeOk} (h : m.Wf) :
    m.getBytes = some (encode SUBSCRIBE_OK ++ m.body) := by
  have htype : SUBSCRIBE_OK < 2 ^ 62 := by decide
  by_cases hc : m.contentExists = 1
  · simp [getBytes, body, append_eq _ htype, append_eq _ h.subscribeID, append_eq _ h.expires, hc,
      append_eq _ h.largestObjectId, append_eq _ h.largestGroupId]
  · simp [getBytes, body, append_eq _ htype, append_eq _ h.subscribeID, append_eq _ h.expires, hc]

/-- What `Parse` makes of the encoding: the group id ends up as the object id. -/
theorem reads_parse {m : SubscribeOk} (h : m.Wf) :
    Reads parse {} m.body () { m with largestGroupId := 0, largestObjectId := m.largestGroupId } := by
  refine (exact_read h.subscribeID).reads.assign.bind ?_
  refine (exact_read h.expires).reads.assign.bind ?_
  refine (exact_readByte m.contentExists _).reads.assign.bind ?_
  refine Reads.onlyIf (fun hc => ?_) (fun hc => ?_)
  · have hone : m.contentExists = 1 := by simpa [hasContent] using hc
    rw [if_pos hone]
    exact (exact_read h.largestObjectId).reads.assign.bind (exact_read h.largestGroupId).reads.assign
  · have hone : m.contentExists ≠ 1 := by simpa [hasContent] using hc
    rw [if_neg hone, (h.noContent hone).1]
    exact ⟨rfl, rfl⟩

end SubscribeOk

namespace SubscribeDone

/-- The fields fit, and the final ids are zero where the content does not exist. -/
structure Wf (m : SubscribeDone) : Prop where
  subscribeID : m.subscribeID < 2 ^ 62
  statusCode : m.statusCode < 2 ^ 62
  reasonPhrase : m.reasonPhrase.length < 2 ^ 62
  finalGroup : m.finalGroup < 2 ^ 62
  finalObject : m.finalObject < 2 ^ 62
  noContent : m.contentExists ≠ 1 → m.finalGroup = 0 ∧ m.finalObject = 0

/-- The optional fields. -/
def final (m : SubscribeDone) : Bytes :=
  if m.contentExists = 1 then encode m.finalGroup ++ encode m.finalObject else []

/-- The message without its type. -/
def body (m : SubscribeDone) : Bytes :=
  encode m.subscribeID ++ (encode m.statusCode ++ (encodeString m.reasonPhrase ++
    ([m.contentExists] ++ m.final)))

theorem getBytes_eq {m : SubscribeDone} (h : m.Wf) : m.getBytes = some m.body := by
  by_cases hc : m.contentExists = 1
  · simp [getBytes, body, final, append_eq _ h.subscribeID, append_eq _ h.statusCode,
      appendVarIntString_eq _ h.reasonPhrase, hc, append_eq _ h.finalGroup,
      append_eq _ h.finalObject]
  · simp [getBytes, body, final, append_eq _ h.subscribeID, append_eq _ h.statusCode,
      appendVarIntString_eq _ h.reasonPhrase, hc]

theorem reads_parse {m : SubscribeDone} (h : m.Wf) : Reads parse {} m.body () m := by
  refine (exact_read h.subscribeID).reads.assign.bind ?_
  refine (exact_read h.statusCode).reads.assign.bind ?_
  refine (reads_parseVarIntString h.reasonPhrase _).assign.bind ?_
  refine (exact_readByte m.contentExists _).reads.assign.bind ?_
  unfold final
  refine Reads.onlyIf (fun hc => ?_) (fun hc => ?_)
  · have hone : m.contentExists = 1 := by simpa [hasContent] using hc
    rw [if_pos hone]
    exact (exact_read h.finalGroup).reads.assign.bind (exact_read h.finalObject).reads.assign
  · have hone : m.contentExists ≠ 1 := by simpa [hasContent] using hc
    obtain ⟨hg, ho⟩ := h.noContent hone
    obtain ⟨sid, code, reason, ce, fg, fo⟩ := m
    simp only at hone hg ho
    subst hg ho
    rw [if_neg hone]
    exact ⟨rfl, rfl⟩

theorem costs_read : Costs (fun v => (encode v).length) (Quicvarint.read : WireParse σ Nat) :=
  spends_read.costs fun _ _ h => h.2

theorem costs_parseVarIntString :
    Costs (fun str => (encodeString str).length) (parseVarIntString : WireParse σ Bytes) := by
  intro s r
  obtain ⟨e, herr⟩ | ⟨n, mid, hok, hle⟩ := costs_read s r
  · exact Or.inl ⟨e, bind_error herr⟩
  · have hrun : parseVarIntString s r = readFull n s mid := bind_ok hok
    rw [hrun]
    unfold readFull
    split
    · next hn =>
      refine Or.inr ⟨mid.take n, mid.drop n, rfl, ?_⟩
      have hlen : (mid.take n).length = n := List.length_take_of_le hn
      have hpaid : mid.length + (encode n).length ≤ r.length := hle
      simp only [encodeString, List.length_append, hlen, List.length_drop]
      omega
    · split
      · exact Or.inl ⟨_, rfl⟩
      · exact Or.inl ⟨_, rfl⟩

/-- The length of the body up to and including the subscribe id. -/
def idLength (m : SubscribeDone) : Nat := (encode m.subscribeID).length

/-- The length of the body up to and including the status code. -/
def codeLength (m : SubscribeDone) : Nat := m.idLength + (encode m.statusCode).length

/-- The length of the body up to and including the reason. -/
def reasonLength (m : SubscribeDone) : Nat := m.codeLength + (encodeString m.reasonPhrase).length

/-- The length of the body up to and including the final group. -/
def groupLength (m : SubscribeDone) : Nat := m.reasonLength + 1 + (encode m.finalGroup).length

theorem length_body (m : SubscribeDone) : m.body.length = m.reasonLength + 1 + m.final.length := by
  simp only [body, reasonLength, codeLength, idLength, List.length_append, List.length_singleton]
  omega

/-- Whatever the stream, `Parse` fails with nothing left, or has read at least the
body of the message it returns. -/
theorem pays_parse : Pays parse (fun _ => 0) (fun m => m.body.length) := by
  have hid : Pays (assign Quicvarint.read fun m v => { m with subscribeID := v } :
      WireParse SubscribeDone Unit) (fun _ => 0) idLength :=
    Pays.assign costs_read fun _ _ => by simp [idLength]
  have hcode : Pays (assign Quicvarint.read fun m v => { m with statusCode := v } :
      WireParse SubscribeDone Unit) idLength codeLength :=
    Pays.assign costs_read fun _ _ => Nat.le_refl _
  have hreason : Pays (assign parseVarIntString fun m v => { m with reasonPhrase := v } :
      WireParse SubscribeDone Unit) codeLength reasonLength :=
    Pays.assign costs_parseVarIntString fun _ _ => Nat.le_refl _
  have hexists : Pays (assign readByte fun m v => { m with contentExists := v } :
      WireParse SubscribeDone Unit) reasonLength (fun m => m.reasonLength + 1) :=
    Pays.assign costs_readByte fun _ _ => Nat.le_refl _
  have hgroup : Pays (assign Quicvarint.read fun m v => { m with finalGroup := v } :
      WireParse SubscribeDone Unit) (fun m => m.reasonLength + 1) groupLength :=
    Pays.assign costs_read fun _ _ => Nat.le_refl _
  have hobject : Pays (assign Quicvarint.read fun m v => { m with finalObject := v } :
      WireParse SubscribeDone Unit) groupLength (fun m => m.body.length) :=
    Pays.assign costs_read fun m v => by
      have hfinal : ({ m with finalObject := v } : SubscribeDone).final.length ≤
          (encode m.finalGroup).length + (encode v).length := by
        unfold final
        split <;> simp
      have hsame : ({ m with finalObject := v } : SubscribeDone).reasonLength = m.reasonLength := rfl
      rw [length_body, groupLength, hsame]
      omega
  refine hid.bind (hcode.bind (hreason.bind (hexists.bind (Pays.onlyIf (hgroup.bind hobject) ?_))))
  intro m hc
  have hone : m.contentExists ≠ 1 := by simpa [hasContent] using hc
  rw [length_body, final, if_neg hone]
  exact Nat.le_refl _

end SubscribeDone

/-! ## all messages -/

namespace MOQTMessage

/-- The fields fit variable-length integers, parameters are role or path
parameters under their own types, and optional fields that are not selected are
zero. -/
def Wf : MOQTMessage → Prop
  | .clientSetup m => m.Wf
  | .serverSetup m => m.Wf
  | .announce m => m.Wf
  | .announceOk m => m.Wf
  | .subscribe m => m.Wf
  | .subscribeOk m => m.Wf
  | .unsubscribe m => m.Wf
  | .subscribeDone m => m.Wf

/-- The parameters of the message. -/
def params : MOQTMessage → Parameters
  | .clientSetup m => m.params
  | .serverSetup m => m.params
  | .announce m => m.params
  | .subscribe m => m.params
  | .announceOk _ | .subscribeOk _ | .unsubscribe _ | .subscribeDone _ => ∅

/-- The message without its type. -/
def body (m : MOQTMessage) (order : Parameters.Order) : Bytes :=
  match m with
  | .clientSetup m => m.body order
  | .serverSetup m => m.body order
  | .announce m => m.body order
  | .announceOk m => m.body
  | .subscribe m => m.body order
  | .subscribeOk m => m.body
  | .unsubscribe m => m.body
  | .subscribeDone m => m.body

/-- The well-formed encoding of a message: its type and its body. -/
def wire (m : MOQTMessage) (order : Parameters.Order) : Bytes := encode m.type ++ m.body order

theorem type_lt (m : MOQTMessage) : m.type < 2 ^ 62 := by
  unfold type
  split <;> decide

/-- The condition under which a message survives. -/
def Survives : MOQTMessage → Prop
  | .subscribeOk m => m.contentExists = 1 → m.largestGroupId = 0 ∧ m.largestObjectId = 0
  | .subscribeDone _ => False
  | _ => True

/-- What `ParseMOQTMessage` makes of the message. -/
def parsed : MOQTMessage → MOQTMessage
  | .subscribeOk m =>
    .subscribeOk { m with largestGroupId := 0, largestObjectId := m.largestGroupId }
  | m => m

end MOQTMessage

theorem parseMOQTMessage_encode {i : Nat} (h : i < 2 ^ 62) (r : Bytes) :
    parseMOQTMessage (encode i ++ r) = dispatch i r := by
  rw [parseMOQTMessage, (exact_read h).reads r]

theorem parseInto_of_reads {p : WireParse σ Unit} {zero msg : σ} {bs : Bytes}
    (h : Reads p zero bs () msg) (mk : σ → MOQTMessage) (rest : Bytes) :
    parseInto p zero mk (bs ++ rest) = (.ok (mk msg), rest) := by
  rw [parseInto, h rest]

variable {m : MOQTMessage}

/-- A message that writes its type is parsed back, with the ids of `SUBSCRIBE_OK`
misplaced. -/
theorem parseMOQTMessage_wire (hwf : m.Wf) (horder : m.params.entries = ↑order) (rest : Bytes) :
    parseMOQTMessage (m.wire order ++ rest) = (.ok m.parsed, rest) := by
  rw [MOQTMessage.wire, List.append_assoc, parseMOQTMessage_encode m.type_lt]
  cases m with
  | clientSetup m => exact parseInto_of_reads (ClientSetup.reads_parse hwf horder) _ rest
  | serverSetup m => exact parseInto_of_reads (ServerSetup.reads_parse hwf horder) _ rest
  | announce m => exact parseInto_of_reads (Announce.reads_parse hwf horder) _ rest
  | announceOk m => exact parseInto_of_reads (AnnounceOk.reads_parse hwf) _ rest
  | subscribe m => exact parseInto_of_reads (Subscribe.reads_parse hwf horder) _ rest
  | subscribeOk m => exact parseInto_of_reads (SubscribeOk.reads_parse hwf) _ rest
  | unsubscribe m => exact parseInto_of_reads (Unsubcribe.reads_parse hwf) _ rest
  | subscribeDone m => exact parseInto_of_reads (SubscribeDone.reads_parse hwf) _ rest

/-- All types but `SUBSCRIBE_DONE` write their type. -/
theorem getBytes_eq_wire (hwf : m.Wf) (horder : m.params.entries = ↑order)
    (hdone : ∀ d, m ≠ .subscribeDone d) : m.getBytes order = some (m.wire order) := by
  cases m with
  | clientSetup m => exact ClientSetup.getBytes_eq hwf horder
  | serverSetup m => exact ServerSetup.getBytes_eq hwf horder
  | announce m => exact Announce.getBytes_eq hwf horder
  | announceOk m => exact AnnounceOk.getBytes_eq hwf
  | subscribe m => exact Subscribe.getBytes_eq hwf horder
  | subscribeOk m => exact SubscribeOk.getBytes_eq hwf
  | unsubscribe m => exact Unsubcribe.getBytes_eq hwf
  | subscribeDone m => exact absurd rfl (hdone m)

theorem parseInto_type {p : WireParse σ Unit} {zero : σ} {mk : σ → MOQTMessage}
    {r rest : Bytes} {mtype : Nat} (h : parseInto p zero mk r = (.ok m, rest))
    (hmk : ∀ s, (mk s).type = mtype) : m.type = mtype := by
  simp only [parseInto, Prod.mk.injEq, Except.ok.injEq] at h
  rw [← h.1]
  exact hmk _

/-- A parsed message is of the type that was read. -/
theorem dispatch_type {mtype : Nat} {r rest : Bytes} (h : dispatch mtype r = (.ok m, rest)) :
    m.type = mtype := by
  unfold dispatch at h
  split_ifs at h with h1 h2 h3 h4 h5 h6 h7 h8
  · exact parseInto_type h fun _ => h1.symm
  · exact parseInto_type h fun _ => h2.symm
  · exact parseInto_type h fun _ => h3.symm
  · exact parseInto_type h fun _ => h4.symm
  · exact parseInto_type h fun _ => h5.symm
  · exact parseInto_type h fun _ => h6.symm
  · exact parseInto_type h fun _ => h7.symm
  · exact parseInto_type h fun _ => h8.symm
  · simp at h

/-- **`SUBSCRIBE_DONE` never survives**: without its type, its own first field is
taken for one, and the rest is too short for the message. -/
theorem subscribeDone_lost {m : SubscribeDone} (hwf : m.Wf) :
    parseMOQTMessage (m.body ++ [0]) ≠ (.ok (.subscribeDone m), [0]) := by
  intro h
  rw [SubscribeDone.body, List.append_assoc, parseMOQTMessage_encode hwf.subscribeID] at h
  rw [← dispatch_type h] at h
  change parseInto SubscribeDone.parse {} .subscribeDone _ = _ at h
  simp only [parseInto, Prod.mk.injEq, Except.ok.injEq, MOQTMessage.subscribeDone.injEq] at h
  obtain ⟨e, s', herr⟩ | ⟨s', rest, hok, hle⟩ := SubscribeDone.pays_parse {} _
  · rw [herr] at h
    simp at h
  · rw [hok] at h
    have hm : s' = m := h.1
    have hrest : rest = [0] := h.2
    subst hm hrest
    have hpos := List.length_pos_iff.mpr (encode_ne_nil hwf.subscribeID)
    simp only [SubscribeDone.body, List.length_append] at hle
    omega

/-- **Round trip, exactly**: `ParseMOQTMessage` returns a well-formed message from
its bytes, and leaves what follows them, if and only if the message is not a
`SUBSCRIBE_DONE`, nor a `SUBSCRIBE_OK` with content and a non-zero id. -/
theorem roundTrips_iff_survives (m : MOQTMessage) (order : Parameters.Order) (hwf : m.Wf)
    (horder : m.params.entries = ↑order) :
    (∀ rest, ∃ bs, m.getBytes order = some bs ∧
        parseMOQTMessage (bs ++ rest) = (.ok m, rest)) ↔ m.Survives := by
  have hwire := parseMOQTMessage_wire hwf horder
  have hbytes := getBytes_eq_wire hwf horder
  cases m with
  | subscribeDone m =>
    refine ⟨fun h => ?_, False.elim⟩
    obtain ⟨bs, hbs, hparse⟩ := h [0]
    rw [show (MOQTMessage.subscribeDone m).getBytes order = some m.body from
      SubscribeDone.getBytes_eq hwf, Option.some.injEq] at hbs
    subst hbs
    exact subscribeDone_lost hwf hparse
  | subscribeOk m =>
    have hb := hbytes nofun
    constructor
    · intro h hc
      obtain ⟨bs, hbs, hparse⟩ := h []
      rw [hb, Option.some.injEq] at hbs
      subst hbs
      rw [hwire [], MOQTMessage.parsed] at hparse
      obtain ⟨sid, expires, ce, gid, oid⟩ := m
      simp only [Prod.mk.injEq, Except.ok.injEq, MOQTMessage.subscribeOk.injEq,
        SubscribeOk.mk.injEq, true_and, and_true] at hparse
      obtain ⟨rfl, rfl⟩ := hparse
      exact ⟨rfl, rfl⟩
    · intro h rest
      refine ⟨_, hb, (hwire rest).trans ?_⟩
      have hzero : m.largestGroupId = 0 ∧ m.largestObjectId = 0 := by
        by_cases hc : m.contentExists = 1
        · exact h hc
        · exact SubscribeOk.Wf.noContent hwf hc
      obtain ⟨sid, expires, ce, gid, oid⟩ := m
      obtain ⟨rfl, rfl⟩ := hzero
      rfl
  | clientSetup _ | serverSetup _ | announce _ | announceOk _ | subscribe _ | unsubscribe _ =>
    exact ⟨fun _ => trivial, fun _ rest => ⟨_, hbytes nofun, hwire rest⟩⟩

/-- An announcement of the namespace `a` with a role. -/
def announceWithRole : Announce :=
  { trackNameSpace := [97], params := Finmap.singleton ROLE_PARAM (.int ROLE_PARAM 1) }

theorem announceWithRole_roundTrips :
    ∃ bs, (MOQTMessage.announce announceWithRole).getBytes [⟨ROLE_PARAM, .int ROLE_PARAM 1⟩] =
        some bs ∧
      parseMOQTMessage (bs ++ [1, 2]) = (.ok (.announce announceWithRole), [1, 2]) := by
  have hwf : (MOQTMessage.announce announceWithRole).Wf := by
    refine ⟨by decide, fun e he => ?_⟩
    have heq : e = ⟨ROLE_PARAM, .int ROLE_PARAM 1⟩ := Multiset.mem_singleton.mp he
    subst heq
    exact ⟨rfl, rfl, by decide⟩
  exact (roundTrips_iff_survives (.announce announceWithRole) [⟨ROLE_PARAM, .int ROLE_PARAM 1⟩]
    hwf rfl).mpr trivial [1, 2]

def okWithContent : SubscribeOk :=
  { subscribeID := 1, contentExists := 1, largestGroupId := 2, largestObjectId := 3 }

/-- A `SUBSCRIBE_DONE` whose id is the type of `UNSUBSCRIBE`. -/
def doneTen : SubscribeDone := { subscribeID := 10, statusCode := 3 }

/-- **Counterexample**: a `SUBSCRIBE_OK` comes back with the group id as its object
id, and a `SUBSCRIBE_DONE` as another message. -/
theorem ok_and_done_do_not_roundTrip :
    ((MOQTMessage.subscribeOk okWithContent).Wf ∧
      (MOQTMessage.subscribeOk okWithContent).getBytes [] = some [4, 1, 0, 1, 3, 2] ∧
      parseMOQTMessage [4, 1, 0, 1, 3, 2] ≠ (.ok (.subscribeOk okWithContent), [])) ∧
    (MOQTMessage.subscribeDone doneTen).Wf ∧
      (MOQTMessage.subscribeDone doneTen).getBytes [] = some [10, 3, 0, 0] ∧
      parseMOQTMessage [10, 3, 0, 0] = (.ok (.unsubscribe { subscriptionID := 3 }), [0, 0]) := by
  refine ⟨⟨?_, by decide, by decide⟩, ?_, by decide, by decide⟩
  · exact ⟨by decide, by decide, by decide, by decide, by decide⟩
  · exact ⟨by decide, by decide, by decide, by decide, by decide, by decide⟩

end MoqQuic.Wire
