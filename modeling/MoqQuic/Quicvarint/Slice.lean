import MoqQuic.Quicvarint

/-!
# MoqQuic.Quicvarint.Slice

Variable-length integers in byte slices: `quicvarint.Parse`.

`Parse` is written separately from `Read`: it looks at the length of the slice before it
touches it, and it puts the bytes together with other operators. Both return the value `v`
from the front of a slice that starts with an encoding of `v` (`Encodes`), and from nothing
else.
-/

namespace MoqQuic.Quicvarint

open Parse

variable {ε σ : Type} [StreamError ε]

/-- `binary.BigEndian.Uint64`. -/
def bigEndianUint64 (b0 b1 b2 b3 b4 b5 b6 b7 : UInt8) : Nat :=
  b7.toNat ||| b6.toNat <<< 8 ||| b5.toNat <<< 16 ||| b4.toNat <<< 24 ||| b3.toNat <<< 32 |||
    b2.toNat <<< 40 ||| b1.toNat <<< 48 ||| b0.toNat <<< 56

/-- `Parse`; a slice that is too short is left as it is. -/
def parse : Parse ε σ Nat
  | s, [] => (.error StreamError.eof, s, [])
  | s, first :: b =>
    let v := (first &&& 0x3f).toNat
    match (first >>> 6).toNat, b with
    | 0, b => (.ok v, s, b)
    | 1, b1 :: b => (.ok (b1.toNat ||| v <<< 8), s, b)
    | 2, b1 :: b2 :: b3 :: b =>
      (.ok (b3.toNat ||| b2.toNat <<< 8 ||| b1.toNat <<< 16 ||| v <<< 24), s, b)
    | 3, b1 :: b2 :: b3 :: b4 :: b5 :: b6 :: b7 :: b =>
      (.ok (bigEndianUint64 first b1 b2 b3 b4 b5 b6 b7 &&& 0x3fffffffffffffff), s, b)
    | _, _ => (.error StreamError.unexpectedEOF, s, first :: b)

/-! ## the bytes of an encoding -/

/-- The two ways to look at the length bits of the first byte. -/
theorem lengthBits_eq : ∀ i < 256,
    (UInt8.ofNat i >>> 6).toNat = ((UInt8.ofNat i &&& 0xc0) >>> 6).toNat ∧
      (UInt8.ofNat i >>> 6).toNat < 4 := by
  decide +kernel

theorem announces_iff (x : UInt8) (k : Nat) : Announces x k ↔ (x >>> 6).toNat = k := by
  have h := (lengthBits_eq x.toNat x.toNat_lt).1
  rw [UInt8.ofNat_toNat] at h
  rw [Announces, h]

/-- Bytes put together from the lowest with `|`. -/
theorem or_shiftLeft {a n : Nat} (b : Nat) (h : a < 2 ^ n) : a ||| b <<< n = a + b * 2 ^ n := by
  rw [Nat.or_comm, Nat.add_comm, ← Nat.shiftLeft_add_eq_or_of_lt h, Nat.shiftLeft_eq]

theorem or_bytes_two (b2 : UInt8) (v : Nat) : b2.toNat ||| v <<< 8 = b2.toNat + v <<< 8 := by
  rw [or_shiftLeft v b2.toNat_lt, Nat.shiftLeft_eq]

theorem or_bytes_four (b2 b3 b4 : UInt8) (v : Nat) :
    b4.toNat ||| b3.toNat <<< 8 ||| b2.toNat <<< 16 ||| v <<< 24 =
      b4.toNat + b3.toNat <<< 8 + b2.toNat <<< 16 + v <<< 24 := by
  have h2 := b2.toNat_lt
  have h3 := b3.toNat_lt
  have h4 := b4.toNat_lt
  simp (disch := omega) only [or_shiftLeft]
  simp only [Nat.shiftLeft_eq]

/-- The mask keeps the value bits of the first byte. -/
theorem bigEndianUint64_mask (b1 b2 b3 b4 b5 b6 b7 b8 : UInt8) :
    bigEndianUint64 b1 b2 b3 b4 b5 b6 b7 b8 &&& 0x3fffffffffffffff =
      b8.toNat + b7.toNat <<< 8 + b6.toNat <<< 16 + b5.toNat <<< 24 + b4.toNat <<< 32 +
        b3.toNat <<< 40 + b2.toNat <<< 48 + valueBits b1 <<< 56 := by
  have h2 := b2.toNat_lt
  have h3 := b3.toNat_lt
  have h4 := b4.toNat_lt
  have h5 := b5.toNat_lt
  have h6 := b6.toNat_lt
  have h7 := b7.toNat_lt
  have h8 := b8.toNat_lt
  have hmask : bigEndianUint64 b1 b2 b3 b4 b5 b6 b7 b8 &&& 0x3fffffffffffffff =
      bigEndianUint64 b1 b2 b3 b4 b5 b6 b7 b8 % 2 ^ 62 :=
    Nat.and_two_pow_sub_one_eq_mod _ 62
  rw [hmask, bigEndianUint64, valueBits_eq_mod]
  simp (disch := omega) only [or_shiftLeft]
  simp only [Nat.shiftLeft_eq]
  omega

/-! ## what `Parse` returns -/

variable {s s' : σ} {b r bs : Bytes} {v : Nat}

/-- `Parse` returns the value of any encoding. -/
theorem Encodes.reads_parse (h : Encodes bs v) : Reads (parse : Parse ε σ Nat) s bs v s := by
  intro rest
  cases h with
  | one h =>
    simp only [List.cons_append, parse, (announces_iff _ _).mp h]
    rfl
  | two h b2 =>
    simp only [List.cons_append, parse, (announces_iff _ _).mp h, or_bytes_two]
    rfl
  | four h b2 b3 b4 =>
    simp only [List.cons_append, parse, (announces_iff _ _).mp h, or_bytes_four]
    rfl
  | eight h b2 b3 b4 b5 b6 b7 b8 =>
    simp only [List.cons_append, parse, (announces_iff _ _).mp h, bigEndianUint64_mask]
    rfl

theorem reads_parse {i : Nat} (hi : i < 2 ^ 62) : Reads (parse : Parse ε σ Nat) s (encode i) i s :=
  (encodes_encode hi).reads_parse

/-- `Parse` returns a value only from an encoding of it. -/
theorem encodes_of_parse (h : (parse : Parse ε σ Nat) s b = (.ok v, s', r)) :
    s' = s ∧ ∃ bs, Encodes bs v ∧ b = bs ++ r := by
  cases b with
  | nil => simp [parse] at h
  | cons x b =>
    simp only [parse] at h
    split at h
    · next hk =>
      obtain ⟨⟨⟩, rfl, rfl⟩ := h
      exact ⟨rfl, _, Encodes.one ((announces_iff x 0).mpr hk), rfl⟩
    · next b2 b hk =>
      simp only [or_bytes_two, Prod.mk.injEq, Except.ok.injEq] at h
      obtain ⟨rfl, rfl, rfl⟩ := h
      exact ⟨rfl, _, Encodes.two ((announces_iff x 1).mpr hk) b2, rfl⟩
    · next b2 b3 b4 b hk =>
      simp only [or_bytes_four, Prod.mk.injEq, Except.ok.injEq] at h
      obtain ⟨rfl, rfl, rfl⟩ := h
      exact ⟨rfl, _, Encodes.four ((announces_iff x 2).mpr hk) b2 b3 b4, rfl⟩
    · next b2 b3 b4 b5 b6 b7 b8 b hk =>
      simp only [bigEndianUint64_mask, Prod.mk.injEq, Except.ok.injEq] at h
      obtain ⟨rfl, rfl, rfl⟩ := h
      exact ⟨rfl, _, Encodes.eight ((announces_iff x 3).mpr hk) b2 b3 b4 b5 b6 b7 b8, rfl⟩
    · simp at h

theorem yields_parse : Yields (· < 2 ^ 62) (parse : Parse ε σ Nat) := by
  intro s r v s' r' h
  obtain ⟨-, bs, henc, -⟩ := encodes_of_parse h
  exact henc.fits.1

/-! ## the two decoders -/

/-- A slice starts with an encoding or ends within one. -/
theorem encodes_or_cut (b : Bytes) : (∃ bs v r, Encodes bs v ∧ b = bs ++ r) ∨
    ∃ bs v, Encodes bs v ∧ b <+: bs ∧ b ≠ bs := by
  cases b with
  | nil => exact .inr ⟨[0], _, .one (by decide), by simp, by simp⟩
  | cons x b =>
    obtain ⟨k, hk⟩ : ∃ k, Announces x k := ⟨_, rfl⟩
    have hlt : k < 4 := by
      rw [← (announces_iff x k).mp hk]
      simpa using (lengthBits_eq x.toNat x.toNat_lt).2
    by_cases hlen : 2 ^ k ≤ b.length + 1
    · have hpos := Nat.two_pow_pos k
      have hbytes : (b.take (2 ^ k - 1)).length + 1 = 2 ^ k := by simp; omega
      exact .inl ⟨_, _, b.drop (2 ^ k - 1), encodes_bigEndian hlt hk hbytes, by simp⟩
    · have hbytes : (b ++ List.replicate (2 ^ k - 1 - b.length) 0).length + 1 = 2 ^ k := by
        simp
        omega
      exact .inr ⟨_, _, encodes_bigEndian hlt hk hbytes, by simp, by simp; omega⟩

theorem read_iff : (read : Parse ε σ Nat) s b = (.ok v, s', r) ↔
    s' = s ∧ ∃ bs, Encodes bs v ∧ b = bs ++ r := by
  constructor
  · intro h
    obtain ⟨bs, v', r', henc, rfl⟩ | ⟨bs, v', henc, hcut, hne⟩ := encodes_or_cut b
    · rw [(henc.exact_read (ε := ε)).reads] at h
      simp only [Prod.mk.injEq, Except.ok.injEq] at h
      obtain ⟨rfl, rfl, rfl⟩ := h
      exact ⟨rfl, bs, henc, rfl⟩
    · obtain ⟨e, s'', hread⟩ := (henc.exact_read (ε := ε) (s := s)).starves b hcut hne
      simp [hread] at h
  · rintro ⟨rfl, bs, henc, rfl⟩
    exact henc.exact_read.reads r

/-- **Variable-length integers**: `Len` is the smallest length, `Parse` returns what `Append` and
`AppendWithLen` have written, and `Read` agrees with it on every slice. -/
theorem varints_roundTrip (s : σ) :
    (∀ i < 2 ^ 62, ∃ n ∈ [1, 2, 4, 8], len i = some n ∧
      (∀ l ∈ [1, 2, 4, 8], n ≤ l ↔ i < 2 ^ (8 * l - 2)) ∧
      (∃ bs, append [] i = some bs ∧ bs.length = n ∧ Reads (parse : Parse ε σ Nat) s bs i s) ∧
      ∀ l ∈ [1, 2, 4, 8], n ≤ l → ∃ bs, appendWithLen [] i l = some bs ∧ bs.length = l ∧
        Reads (parse : Parse ε σ Nat) s bs i s) ∧
    ∀ b v s' r, (read : Parse ε σ Nat) s b = (.ok v, s', r) ↔
      (parse : Parse ε σ Nat) s b = (.ok v, s', r) := by
  refine ⟨fun i hi => ?_, fun b v s' r => ?_⟩
  · obtain ⟨n, hn, hlen, hholds⟩ := len_spec hi
    refine ⟨n, hn, hlen, hholds, ⟨encode i, append_eq [] hi, ?_, reads_parse hi⟩, fun l hl hle => ?_⟩
    · rw [length_encode, hlen, Option.getD_some]
    · obtain ⟨bs, happ, henc, hbs⟩ := encodes_appendWithLen [] hi hlen hl hle
      exact ⟨bs, happ, hbs, henc.reads_parse⟩
  · rw [read_iff]
    constructor
    · rintro ⟨rfl, bs, henc, rfl⟩
      exact henc.reads_parse r
    · exact encodes_of_parse

end MoqQuic.Quicvarint
