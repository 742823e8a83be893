import MoqQuic.Quicvarint

/-!
# MoqQuic.WebTransport

The WebTransport shim: SETTINGS frames (`h3/settingsframe.go`, `h3/frame.go`) and stream headers
(`wt/header.go`).

`SettingsFrame.Parse` ignores the errors of `Setting.Parse` and counts the payload down by the
shortest length of what it has parsed. So it stops only when these lengths add up to the payload,
modulo `2 ^ 64` (`loop_sum`): a longer encoding or a pair that is cut off makes it add settings that
nobody has sent, or never stop. A stream header of a bidirectional stream is written without its
ID and read with one.
-/

namespace MoqQuic

open Parse

namespace H3

inductive H3Error where
  | eof
  | unexpectedEOF
  | unknownFrame (ftype : Nat)
  | unknownStreamType
  deriving DecidableEq, Repr

instance : StreamError H3Error := ⟨.eof, .unexpectedEOF⟩

def FRAME_DATA : Nat := 0x00
def FRAME_HEADERS : Nat := 0x01
def FRAME_SETTINGS : Nat := 0x04
def FRAME_WEBTRANSPORT_UNI_STREAM : Nat := 0x54
def FRAME_WEBTRANSPORT_BI_STREAM : Nat := 0x41

/-! ## settings -/

structure Setting where
  key : Nat := 0
  value : Nat := 0
  deriving DecidableEq, Repr

namespace Setting

def parse : Parse H3Error Setting Unit := do
  let key ← Quicvarint.read
  let value ← Quicvarint.read
  update fun _ => ⟨key, value⟩

def getBytes (setting : Setting) : Option Bytes := do
  Quicvarint.append (← Quicvarint.append [] setting.key) setting.value

def getLength (setting : Setting) : Option Nat :=
  return (← Quicvarint.len setting.key) + (← Quicvarint.len setting.value)

/-- The bytes that `GetBytes` returns for the setting. -/
def encode (setting : Setting) : Bytes :=
  Quicvarint.encode setting.key ++ Quicvarint.encode setting.value

/-- Both fields fit 62 bits. -/
def Valid (setting : Setting) : Prop := setting.key < 2 ^ 62 ∧ setting.value < 2 ^ 62

theorem parse_encoded {k v : Bytes} {key value : Nat} (hkey : Quicvarint.Encodes k key)
    (hvalue : Quicvarint.Encodes v value) (data : Bytes) :
    parse {} (k ++ (v ++ data)) = (.ok (), ⟨key, value⟩, data) := by
  rw [← List.append_assoc]
  exact Reads.bind hkey.exact_read.reads hvalue.exact_read.reads.bind_update data

theorem length_encode {setting : Setting} {n : Nat} (h : setting.getLength = some n) :
    setting.encode.length = n := by
  simp only [getLength, bind, pure, Option.bind_eq_some_iff, Option.some.injEq] at h
  obtain ⟨k, hk, v, hv, rfl⟩ := h
  simp [encode, Quicvarint.length_encode, hk, hv]

theorem Valid.getLength {setting : Setting} (h : setting.Valid) :
    setting.getLength = some setting.encode.length := by
  simp [Setting.getLength, encode, Quicvarint.len_eq h.1, Quicvarint.len_eq h.2]

end Setting

namespace SettingsFrame

/-- The loop of `Parse`: at most `fuel` rounds over the unread `data`. -/
def loop : Nat → Nat → Bytes → List Setting → Option (List Setting)
  | 0, _, _, _ => none
  | fuel + 1, dlength, data, settings =>
    if dlength > 0 then
      -- the error of the setting is ignored
      let (_, setting, data) := Setting.parse {} data
      do
        let length ← setting.getLength
        loop fuel ((dlength + (2 ^ 64 - length % 2 ^ 64)) % 2 ^ 64) data (settings ++ [setting])
    else some settings

/-- `Parse`: the error, the settings and the unread bytes, unless `fuel` rounds do not suffice. -/
def parse (fuel : Nat) (r : Bytes) : Option (Except H3Error Unit × List Setting × Bytes) :=
  match (Quicvarint.read : Parse H3Error Unit Nat) () r with
  | (.error e, _, r) => some (.error e, [], r)
  | (.ok length, _, r) =>
    match (readFull length : Parse H3Error Unit Bytes) () r with
    | (.error e, _, r) => some (.error e, [], r)
    | (.ok data, _, r) => (loop fuel length data []).map fun settings => (.ok (), settings, r)

/-- The bytes `data` are the pairs of key and value, each in any encoding. -/
inductive Pairs : Bytes → List Setting → Prop where
  | nil : Pairs [] []
  | cons {k v data : Bytes} {key value : Nat} {settings : List Setting}
      (hkey : Quicvarint.Encodes k key) (hvalue : Quicvarint.Encodes v value)
      (hrest : Pairs data settings) : Pairs (k ++ (v ++ data)) (⟨key, value⟩ :: settings)

/-- The number of bytes that the settings take at least. -/
def size (settings : List Setting) : Nat := (settings.flatMap Setting.encode).length

variable {data : Bytes} {settings : List Setting}

/-- **The loop stops when the shortest lengths of its settings add up to the payload.** -/
theorem loop_sum {fuel dlength : Nat} {acc : List Setting} (hd : dlength < 2 ^ 64)
    (h : loop fuel dlength data acc = some settings) :
    ∃ new, settings = acc ++ new ∧ size new % 2 ^ 64 = dlength := by
  induction fuel generalizing dlength data acc with
  | zero => contradiction
  | succ fuel ih =>
    unfold loop at h
    split at h
    · simp only [bind, Option.bind_eq_some_iff] at h
      obtain ⟨length, hlength, h⟩ := h
      obtain ⟨new, rfl, hnew⟩ := ih (Nat.mod_lt _ (by decide)) h
      refine ⟨_ :: new, by rw [List.append_assoc, List.singleton_append], ?_⟩
      have hlen := Setting.length_encode hlength
      simp only [size, List.flatMap_cons, List.length_append] at hnew ⊢
      omega
    · cases h
      exact ⟨[], by simp, by simp [size]; omega⟩

theorem Pairs.valid (h : Pairs data settings) :
    (∀ setting ∈ settings, setting.Valid) ∧ size settings ≤ data.length := by
  induction h with
  | nil => simp [size]
  | cons hkey hvalue hrest ih =>
    obtain ⟨hk, hklen⟩ := hkey.fits
    obtain ⟨hv, hvlen⟩ := hvalue.fits
    obtain ⟨hvalid, hle⟩ := ih
    refine ⟨List.forall_mem_cons.mpr ⟨⟨hk, hv⟩, hvalid⟩, ?_⟩
    simp only [size, Setting.encode, List.flatMap_cons, List.length_append] at hle ⊢
    omega

/-- A payload of pairs in their shortest encodings is parsed as it is. -/
theorem Pairs.loop (h : Pairs data settings) (hlt : size settings < 2 ^ 64) (acc : List Setting) :
    loop (settings.length + 1) (size settings) data acc = some (acc ++ settings) := by
  induction h generalizing acc with
  | nil => simp [SettingsFrame.loop, size]
  | @cons k v data key value settings hkey hvalue hrest ih =>
    have hread := Setting.parse_encoded hkey hvalue data
    have hvalid := (Pairs.cons hkey hvalue hrest).valid.1 _ List.mem_cons_self
    generalize Setting.mk key value = setting at hread hvalid hlt ⊢
    have hpos : 0 < setting.encode.length :=
      List.length_pos_of_ne_nil (List.append_ne_nil_of_left_ne_nil (Quicvarint.encode_ne_nil hvalid.1) _)
    have hsize : size (setting :: settings) = setting.encode.length + size settings := by
      simp [size]
    have hdown : (size (setting :: settings) + (2 ^ 64 - setting.encode.length % 2 ^ 64)) % 2 ^ 64 =
        size settings := by
      omega
    rw [List.length_cons, SettingsFrame.loop, if_pos (by omega)]
    simp only [hread, hvalid.getLength, bind, Option.bind_some, hdown, ih (by omega)]
    rw [List.append_assoc, List.singleton_append]

/-- What is asked of `Parse` on a payload: it terminates, and it returns nil with the settings of the
payload if that is a list of pairs, and an error otherwise. -/
def Strict (r data : Bytes) : Prop :=
  ∃ fuel err settings rest, parse fuel r = some (err, settings, rest) ∧
    ((err = .ok () ∧ Pairs data settings) ∨ (err ≠ .ok () ∧ ∀ settings, ¬ Pairs data settings))

/-- The parser comes to its loop. -/
theorem parse_eq (fuel : Nat) {r rest : Bytes}
    (h : (Quicvarint.read : Parse H3Error Unit Nat) () r = (.ok data.length, (), data ++ rest)) :
    parse fuel r = (loop fuel data.length data []).map fun settings => (.ok (), settings, rest) := by
  have hfull := (exact_readFull (ε := H3Error) data ()).reads rest
  simp only [parse, h, hfull]

/-- **SETTINGS, exactly**: on a payload that is there, the parser is strict if and only if the payload
is a list of pairs in encodings of the shortest length. -/
theorem strict_iff_shortest (r data rest : Bytes)
    (h : (Quicvarint.read : Parse H3Error Unit Nat) () r = (.ok data.length, (), data ++ rest)) :
    Strict r data ↔ ∃ settings, Pairs data settings ∧ size settings = data.length := by
  have hlt : data.length < 2 ^ 62 := Quicvarint.yields_read _ _ _ _ _ h
  unfold Strict
  simp only [parse_eq _ h, Option.map_eq_some_iff]
  constructor
  · rintro ⟨fuel, err, settings, _, ⟨_, hloop, heq⟩, hstrict⟩
    simp only [Prod.mk.injEq] at heq
    obtain ⟨rfl, rfl, -⟩ := heq
    obtain ⟨-, hpairs⟩ | ⟨hne, -⟩ := hstrict
    · obtain ⟨_, rfl, hsum⟩ := loop_sum (by omega) hloop
      have hle := hpairs.valid.2
      exact ⟨_, hpairs, by omega⟩
    · exact absurd rfl hne
  · rintro ⟨settings, hpairs, hsize⟩
    refine ⟨settings.length + 1, .ok (), settings, rest, ⟨settings, ?_, rfl⟩, .inl ⟨rfl, hpairs⟩⟩
    rw [← hsize, hpairs.loop (by omega), List.nil_append]

/-- One setting in two bytes. -/
theorem strict_oneSetting : Strict [2, 5, 7] [5, 7] := by
  have hpairs : Pairs ([5] ++ ([7] ++ [])) [⟨5, 7⟩] :=
    .cons (.one (x := 5) (by decide)) (.one (x := 7) (by decide)) .nil
  exact (strict_iff_shortest [2, 5, 7] [5, 7] [] rfl).mpr ⟨_, hpairs, by decide⟩

theorem Pairs.ne_cutOff (h : Pairs data settings) : data ≠ [0x40, 5] := by
  cases h with
  | nil => decide
  | @cons _ _ data _ _ _ hkey hvalue hrest =>
    intro hdata
    have hread := Setting.parse_encoded hkey hvalue data
    rw [hdata] at hread
    have hok : (Setting.parse {} [0x40, 5]).1 = .ok () := congrArg Prod.fst hread
    exact absurd hok (by decide)

/-- A payload that ends after a key is accepted, as a setting that it does not hold. -/
theorem cutOff_accepted : parse 2 [2, 0x40, 5] = some (.ok (), [⟨0, 0⟩], []) ∧
    ¬ Strict [2, 0x40, 5] [0x40, 5] := by
  refine ⟨rfl, ?_⟩
  rintro ⟨fuel, err, settings, rest, h, ⟨-, hpairs⟩ | ⟨hne, -⟩⟩
  · exact hpairs.ne_cutOff rfl
  · rw [@parse_eq [0x40, 5] fuel _ [] rfl, Option.map_eq_some_iff] at h
    obtain ⟨_, -, heq⟩ := h
    exact hne (congrArg Prod.fst heq).symm

/-- The loop over the lengths in `GetBytes`. -/
def addLength (length : Nat) (setting : Setting) : Option Nat :=
  return (length + (← setting.getLength)) % 2 ^ 64

/-- The loop over the settings in `GetBytes`. -/
def addBytes (data : Bytes) (setting : Setting) : Option Bytes :=
  return data ++ (← setting.getBytes)

def getBytes (settings : List Setting) : Option Bytes := do
  let data ← Quicvarint.append [] FRAME_SETTINGS
  let length ← settings.foldlM addLength 0
  let data ← Quicvarint.append data length
  settings.foldlM addBytes data

theorem pairs_encode (h : ∀ setting ∈ settings, setting.Valid) :
    Pairs (settings.flatMap Setting.encode) settings := by
  induction settings with
  | nil => exact .nil
  | cons setting settings ih =>
    obtain ⟨⟨hkey, hvalue⟩, hsettings⟩ := List.forall_mem_cons.mp h
    rw [List.flatMap_cons, Setting.encode, List.append_assoc]
    exact .cons (Quicvarint.encodes_encode hkey) (Quicvarint.encodes_encode hvalue) (ih hsettings)

theorem foldlM_addLength (h : ∀ setting ∈ settings, setting.Valid) (length : Nat)
    (hlt : length < 2 ^ 64) :
    settings.foldlM addLength length = some ((length + size settings) % 2 ^ 64) := by
  induction settings generalizing length with
  | nil => exact congrArg some (Nat.mod_eq_of_lt hlt).symm
  | cons setting settings ih =>
    obtain ⟨hsetting, hsettings⟩ := List.forall_mem_cons.mp h
    have hadd : addLength length setting = some ((length + setting.encode.length) % 2 ^ 64) := by
      simp [addLength, hsetting.getLength]
    rw [List.foldlM_cons, hadd]
    refine (ih hsettings _ (Nat.mod_lt _ (by decide))).trans ?_
    rw [Nat.mod_add_mod, Nat.add_assoc, size, size, List.flatMap_cons, List.length_append]

theorem foldlM_addBytes (h : ∀ setting ∈ settings, setting.Valid) :
    settings.foldlM addBytes data = some (data ++ settings.flatMap Setting.encode) := by
  induction settings generalizing data with
  | nil => exact congrArg some (List.append_nil data).symm
  | cons setting settings ih =>
    obtain ⟨⟨hkey, hvalue⟩, hsettings⟩ := List.forall_mem_cons.mp h
    have hadd : addBytes data setting = some (data ++ setting.encode) := by
      simp [addBytes, Setting.getBytes, Setting.encode, Quicvarint.append_eq _ hkey,
        Quicvarint.append_eq _ hvalue]
    rw [List.foldlM_cons, hadd]
    refine (ih hsettings).trans ?_
    rw [List.flatMap_cons, List.append_assoc]

/-- The bytes of a frame, unless `Append` panics on the length. -/
theorem getBytes_eq (h : ∀ setting ∈ settings, setting.Valid) :
    getBytes settings = (Quicvarint.append [4] (size settings % 2 ^ 64)).map
      (· ++ settings.flatMap Setting.encode) := by
  have htype : Quicvarint.append [] FRAME_SETTINGS = some [4] := rfl
  simp only [getBytes, htype, foldlM_addLength h 0 (by decide), foldlM_addBytes h, bind,
    Option.bind_some, Nat.zero_add]
  cases Quicvarint.append [4] (size settings % 2 ^ 64) <;> rfl

end SettingsFrame

/-- A frame; the fields of a HEADERS frame are those of the package `qpack`. -/
inductive Frame (φ : Type) where
  | settings (settings : List Setting)
  | headers (hfs : List φ)
  | data (data : Bytes)

/-- A length and as many bytes; the error of `io.ReadFull` is ignored. -/
def readSized : Parse H3Error Unit Bytes := do readInto (← Quicvarint.read)

/-- The frames other than SETTINGS of `ParseFrame`; `decode` is the decoder of `qpack`. -/
def parseOther {φ : Type} (decode : Bytes → Except H3Error (List φ)) (ftype : Nat) :
    Parse H3Error Unit (Frame φ) := do
  let data ← readSized
  if ftype = FRAME_HEADERS then
    match decode data with
    | .error e => fail e
    | .ok hfs => return .headers hfs
  else if ftype = FRAME_DATA ∨ ftype = FRAME_WEBTRANSPORT_BI_STREAM ∨
      ftype = FRAME_WEBTRANSPORT_UNI_STREAM then
    return .data data
  else fail (.unknownFrame ftype)

/-- `ParseFrame`: the type, the frame or an error, and the unread bytes. -/
def parseFrame {φ : Type} (decode : Bytes → Except H3Error (List φ)) (fuel : Nat) (r : Bytes) :
    Option (Nat × Except H3Error (Frame φ) × Bytes) :=
  match (Quicvarint.read : Parse H3Error Unit Nat) () r with
  | (.error e, _, r) => some (0, .error e, r)
  | (.ok ftype, _, r) =>
    if ftype = FRAME_SETTINGS then do
      let (err, settings, r) ← SettingsFrame.parse fuel r
      return (ftype, err.map fun _ => .settings settings, r)
    else
      let (frame, _, r) := parseOther decode ftype () r
      some (ftype, frame, r)

section

variable {φ : Type} (decode : Bytes → Except H3Error (List φ)) {settings : List Setting}

/-- `ParseFrame` returns the settings that `GetBytes` has written, and leaves what follows. -/
def SettingsRoundTrip (settings : List Setting) : Prop :=
  ∀ rest, ∃ bs fuel, SettingsFrame.getBytes settings = some bs ∧
    parseFrame decode fuel (bs ++ rest) = some (FRAME_SETTINGS, .ok (.settings settings), rest)

theorem parseFrame_settings (fuel : Nat) (r : Bytes) :
    parseFrame decode fuel (4 :: r) = (SettingsFrame.parse fuel r).map fun (err, settings, r) =>
      (FRAME_SETTINGS, err.map fun _ => .settings settings, r) := by
  have hread : (Quicvarint.read : Parse H3Error Unit Nat) () (4 :: r) = (.ok FRAME_SETTINGS, (), r) :=
    (Quicvarint.exact_read (i := 4) (by decide)).reads r
  simp only [parseFrame, hread, if_pos, bind, pure]
  cases SettingsFrame.parse fuel r <;> rfl

theorem settingsRoundTrip_iff (h : ∀ setting ∈ settings, setting.Valid) :
    SettingsRoundTrip decode settings ↔ SettingsFrame.size settings < 2 ^ 62 := by
  have hpairs := SettingsFrame.pairs_encode h
  unfold SettingsRoundTrip
  simp only [SettingsFrame.getBytes_eq h]
  constructor
  · intro hround
    obtain ⟨bs, fuel, hbytes, hparse⟩ := hround []
    have hlt : SettingsFrame.size settings % 2 ^ 64 < 2 ^ 62 := by
      by_contra hge
      rw [Quicvarint.append_eq_none hge] at hbytes
      cases hbytes
    rw [Quicvarint.append_eq _ hlt] at hbytes
    cases hbytes
    -- as many bytes of the payload as the length says are read, and nothing is left
    generalize hpayload : settings.flatMap Setting.encode = payload at hparse
    have hsize : SettingsFrame.size settings = payload.length := congrArg List.length hpayload
    rw [hsize] at hlt hparse ⊢
    obtain ⟨data, tail, rfl, hlen⟩ : ∃ data tail, payload = data ++ tail ∧
        data.length = payload.length % 2 ^ 64 :=
      ⟨_, _, (List.take_append_drop _ _).symm, List.length_take_of_le (Nat.mod_le _ _)⟩
    dsimp only at hparse
    rw [← hlen] at hlt hparse
    have hread := (Quicvarint.exact_read (ε := H3Error) (s := ()) hlt).reads (data ++ tail)
    rw [List.append_nil, List.append_assoc, List.singleton_append, parseFrame_settings,
      SettingsFrame.parse_eq _ hread] at hparse
    simp only [Option.map_map, Option.map_eq_some_iff, Function.comp_apply, Prod.mk.injEq] at hparse
    obtain ⟨_, -, -, -, rfl⟩ := hparse
    rwa [List.append_nil]
  · intro hlt rest
    have hmod := Nat.mod_eq_of_lt (hlt.trans (by decide : 2 ^ 62 < 2 ^ 64))
    have hread := (Quicvarint.exact_read (ε := H3Error) (s := ()) hlt).reads
      (settings.flatMap Setting.encode ++ rest)
    refine ⟨_, settings.length + 1, by rw [hmod, Quicvarint.append_eq _ hlt]; rfl, ?_⟩
    rw [List.append_assoc, List.append_assoc, List.singleton_append, parseFrame_settings,
      SettingsFrame.parse_eq _ hread]
    have hloop := hpairs.loop (hlt.trans (by decide)) []
    rw [List.nil_append, SettingsFrame.size] at hloop
    rw [hloop]
    rfl

end

end H3

namespace Wt

open H3 (H3Error)

/-! ## stream headers -/

def STREAM_CONTROL : Nat := 0x00
def STREAM_PUSH : Nat := 0x01
def STREAM_QPACK_ENCODER : Nat := 0x02
def STREAM_QPACK_DECODER : Nat := 0x03
def STREAM_WEBTRANSPORT_UNI_STREAM : Nat := 0x54
def STREAM_WEBTRANSPORT_BI_STREAM : Nat := 0x41

structure StreamHeader where
  type : Nat := 0
  id : Nat := 0
  deriving DecidableEq, Repr

namespace StreamHeader

def read : Parse H3Error StreamHeader Unit := do
  let htype ← Quicvarint.read
  update fun sh => { sh with type := htype }
  if htype = STREAM_CONTROL ∨ htype = STREAM_QPACK_ENCODER ∨ htype = STREAM_QPACK_DECODER then
    pure ()
  else if htype = STREAM_PUSH ∨ htype = STREAM_WEBTRANSPORT_UNI_STREAM ∨
      htype = STREAM_WEBTRANSPORT_BI_STREAM then do
    let id ← Quicvarint.read
    update fun sh => { sh with id := id }
  else fail .unknownStreamType

def getBytes (sh : StreamHeader) : Option Bytes := do
  let data ← Quicvarint.append [] sh.type
  if sh.type = STREAM_PUSH ∨ sh.type = STREAM_WEBTRANSPORT_UNI_STREAM then
    Quicvarint.append data sh.id
  else return data

/-- A header of one of the six types; the ID of a type without ID is zero. -/
def Known (sh : StreamHeader) : Prop :=
  (sh.id = 0 ∧ (sh.type = STREAM_CONTROL ∨ sh.type = STREAM_QPACK_ENCODER ∨
    sh.type = STREAM_QPACK_DECODER)) ∨
  (sh.id < 2 ^ 62 ∧ (sh.type = STREAM_PUSH ∨ sh.type = STREAM_WEBTRANSPORT_UNI_STREAM ∨
    sh.type = STREAM_WEBTRANSPORT_BI_STREAM))

/-- `Read` returns the header that `GetBytes` has written, and leaves what follows. -/
def RoundTrip (sh : StreamHeader) : Prop :=
  ∀ rest, ∃ bs, sh.getBytes = some bs ∧ read {} (bs ++ rest) = (.ok (), sh, rest)

theorem reads_id (htype : Nat) {id : Nat} (hlt : htype < 2 ^ 62)
    (hno : ¬ (htype = STREAM_CONTROL ∨ htype = STREAM_QPACK_ENCODER ∨ htype = STREAM_QPACK_DECODER))
    (htypes : htype = STREAM_PUSH ∨ htype = STREAM_WEBTRANSPORT_UNI_STREAM ∨
      htype = STREAM_WEBTRANSPORT_BI_STREAM) (hid : id < 2 ^ 62) :
    Reads read {} (Quicvarint.encode htype ++ Quicvarint.encode id) () ⟨htype, id⟩ := by
  refine (Quicvarint.exact_read hlt).reads.bind fun rest => ?_
  rw [bind_ok (p := update _) rfl, if_neg hno, if_pos htypes]
  exact (Quicvarint.exact_read hid).reads.bind_update rest

theorem roundTrip_iff {sh : StreamHeader} (h : sh.Known) :
    sh.RoundTrip ↔ sh.type ≠ STREAM_WEBTRANSPORT_BI_STREAM := by
  obtain ⟨type, id⟩ := sh
  constructor
  · rintro hround rfl
    obtain ⟨bs, hbytes, hread⟩ := hround []
    have hbs : bs = Quicvarint.encode STREAM_WEBTRANSPORT_BI_STREAM := (Option.some.inj hbytes).symm
    have hfail : read {} (Quicvarint.encode STREAM_WEBTRANSPORT_BI_STREAM ++ []) =
      (.error .eof, ⟨STREAM_WEBTRANSPORT_BI_STREAM, 0⟩, []) := by decide
    rw [hbs, hfail] at hread
    cases hread
  · intro hne rest
    obtain ⟨rfl, rfl | rfl | rfl⟩ | ⟨hid, rfl | rfl | rfl⟩ := h
    · exact ⟨_, rfl, rfl⟩
    · exact ⟨_, rfl, rfl⟩
    · exact ⟨_, rfl, rfl⟩
    · refine ⟨_, Quicvarint.append_eq _ hid, ?_⟩
      exact reads_id STREAM_PUSH (by decide) (by decide) (.inl rfl) hid rest
    · refine ⟨_, Quicvarint.append_eq _ hid, ?_⟩
      exact reads_id STREAM_WEBTRANSPORT_UNI_STREAM (by decide) (by decide)
        (.inr (.inl rfl)) hid rest
    · exact absurd rfl hne

end StreamHeader

open H3 in
/-- **Round trips, exactly**: a list of settings comes back if its bytes are fewer than `2 ^ 62`, and a
stream header if it is not that of a bidirectional stream. -/
theorem shim_roundTrip_iff {φ : Type} (decode : Bytes → Except H3Error (List φ))
    (settings : List Setting) (hsettings : ∀ setting ∈ settings, setting.Valid) (sh : StreamHeader)
    (hknown : sh.Known) :
    (SettingsRoundTrip decode settings ↔ SettingsFrame.size settings < 2 ^ 62) ∧
    (sh.RoundTrip ↔ sh.type ≠ STREAM_WEBTRANSPORT_BI_STREAM) :=
  ⟨settingsRoundTrip_iff decode hsettings, StreamHeader.roundTrip_iff hknown⟩

open H3 in
/-- Two settings, and the header of a unidirectional stream. -/
theorem uniStream_roundTrip :
    SettingsRoundTrip (fun _ => .ok ([] : List Unit)) [⟨0x2b603742, 1⟩, ⟨7, 100⟩] ∧
    (StreamHeader.mk STREAM_WEBTRANSPORT_UNI_STREAM 9).RoundTrip := by
  have h := shim_roundTrip_iff (fun _ => .ok ([] : List Unit)) [⟨0x2b603742, 1⟩, ⟨7, 100⟩]
    (by simp [Setting.Valid]) ⟨STREAM_WEBTRANSPORT_UNI_STREAM, 9⟩ (.inr (by decide))
  exact ⟨h.1.mpr (by decide), h.2.mpr (by decide)⟩

/-- The first byte of the application data is taken for the ID. -/
theorem biStream_header_eats_data :
    (StreamHeader.mk STREAM_WEBTRANSPORT_BI_STREAM 0).Known ∧
    (StreamHeader.mk STREAM_WEBTRANSPORT_BI_STREAM 0).getBytes = some [0x40, 0x41] ∧
    StreamHeader.read {} ([0x40, 0x41] ++ [9, 8]) =
      (.ok (), ⟨STREAM_WEBTRANSPORT_BI_STREAM, 9⟩, [8]) :=
  ⟨.inr (by decide), by decide, by decide⟩

end Wt

end MoqQuic
