import Mathlib.Algebra.Group.Nat.Defs
import MoqQuic.Lib.Parse

/-!
# MoqQuic.Quicvarint

QUIC variable-length integers: the package `quicvarint`.

The first two bits of an encoding give its length, 1, 2, 4 or 8 bytes, and the
remaining bits the value, most significant byte first.  `Append` and `Len` panic
on values that do not fit 62 bits, which the model returns as `none`.

`exact_read` is the round trip; `spends_read` says what `Read` can do on any
stream: a value takes at least as many bytes as its shortest encoding, and the
only error is the end of the stream.
-/

namespace MoqQuic.Quicvarint

open Parse

def maxVarInt1 : Nat := 63
def maxVarInt2 : Nat := 16383
def maxVarInt4 : Nat := 1073741823
def maxVarInt8 : Nat := 4611686018427387903

/-- `Append`: `i` in the shortest of the four encodings, after `b`. -/
def append (b : Bytes) (i : Nat) : Option Bytes :=
  if i ≤ maxVarInt1 then some (b ++ [UInt8.ofNat i])
  else if i ≤ maxVarInt2 then some (b ++ [UInt8.ofNat (i >>> 8) ||| 0x40, UInt8.ofNat i])
  else if i ≤ maxVarInt4 then
    some (b ++ [UInt8.ofNat (i >>> 24) ||| 0x80, UInt8.ofNat (i >>> 16), UInt8.ofNat (i >>> 8),
      UInt8.ofNat i])
  else if i ≤ maxVarInt8 then
    some (b ++ [UInt8.ofNat (i >>> 56) ||| 0xc0, UInt8.ofNat (i >>> 48), UInt8.ofNat (i >>> 40),
      UInt8.ofNat (i >>> 32), UInt8.ofNat (i >>> 24), UInt8.ofNat (i >>> 16), UInt8.ofNat (i >>> 8),
      UInt8.ofNat i])
  else none

/-- `Len`: the number of bytes that `Append` adds. -/
def len (i : Nat) : Option Nat :=
  if i ≤ maxVarInt1 then some 1
  else if i ≤ maxVarInt2 then some 2
  else if i ≤ maxVarInt4 then some 4
  else if i ≤ maxVarInt8 then some 8
  else none

/-- The last `l` bytes of a number, most significant first. -/
def lowBytes (i l : Nat) : Bytes :=
  (List.range l).map fun j => UInt8.ofNat (i >>> (8 * (l - 1 - j)))

/-- `AppendWithLen`: `i` in an encoding of `length` bytes, after `b`. -/
def appendWithLen (b : Bytes) (i length : Nat) : Option Bytes := do
  guard (length ∈ [1, 2, 4, 8])
  let l ← len i
  if l = length then append b i
  else if l > length then none
  else
    let first : Bytes := match length with
      | 2 => [0x40]
      | 4 => [0x80]
      | 8 => [0xc0]
      | _ => []
    some (b ++ first ++ List.replicate (length - l - 1) 0 ++ lowBytes i l)

variable {ε σ : Type} [StreamError ε]

def read : Parse ε σ Nat := do
  let firstByte ← readByte
  -- the first two bits of the first byte encode the length
  let l := 1 <<< ((firstByte &&& 0xc0) >>> 6).toNat
  let b1 := firstByte &&& (0xff - 0xc0)
  if l = 1 then pure b1.toNat
  else do
    let b2 ← readByte
    if l = 2 then pure (b2.toNat + b1.toNat <<< 8)
    else do
      let b3 ← readByte
      let b4 ← readByte
      if l = 4 then pure (b4.toNat + b3.toNat <<< 8 + b2.toNat <<< 16 + b1.toNat <<< 24)
      else do
        let b5 ← readByte
        let b6 ← readByte
        let b7 ← readByte
        let b8 ← readByte
        pure (b8.toNat + b7.toNat <<< 8 + b6.toNat <<< 16 + b5.toNat <<< 24 + b4.toNat <<< 32 +
          b3.toNat <<< 40 + b2.toNat <<< 48 + b1.toNat <<< 56)

/-! ## encodings -/

/-- The bytes that `Append` adds. -/
def encode (i : Nat) : Bytes := (append [] i).getD []

variable {i : Nat} {v : Nat}

theorem append_eq (b : Bytes) (h : i < 2 ^ 62) : append b i = some (b ++ encode i) := by
  have h8 : i ≤ maxVarInt8 := by
    unfold maxVarInt8
    omega
  unfold encode append
  split
  · rfl
  · split
    · rfl
    · split
      · rfl
      · rfl

theorem append_eq_none {b : Bytes} (h : ¬ i < 2 ^ 62) : append b i = none := by
  unfold append maxVarInt1 maxVarInt2 maxVarInt4 maxVarInt8
  rw [if_neg (by omega), if_neg (by omega), if_neg (by omega), if_neg (by omega)]

theorem length_encode (i : Nat) : (encode i).length = (len i).getD 0 := by
  unfold encode append len
  split
  · rfl
  · split
    · rfl
    · split
      · rfl
      · split <;> rfl

/-- `Len` is the smallest length that has enough value bits. -/
theorem len_spec (h : i < 2 ^ 62) : ∃ n ∈ [1, 2, 4, 8], len i = some n ∧
    ∀ l ∈ [1, 2, 4, 8], n ≤ l ↔ i < 2 ^ (8 * l - 2) := by
  cases hlen : len i with
  | none =>
    simp only [len, maxVarInt8] at hlen
    grind
  | some n =>
    simp only [len, maxVarInt1, maxVarInt2, maxVarInt4] at hlen
    refine ⟨n, ?_, rfl, ?_⟩
    · grind
    · simp only [List.forall_mem_cons, List.not_mem_nil, false_implies, implies_true, and_true]
      grind

theorem len_eq (h : i < 2 ^ 62) : len i = some (encode i).length := by
  obtain ⟨n, -, hlen, -⟩ := len_spec h
  rw [length_encode, hlen, Option.getD_some]

theorem encode_ne_nil (h : i < 2 ^ 62) : encode i ≠ [] := by
  obtain ⟨n, hn, hlen, -⟩ := len_spec h
  rw [← List.length_pos_iff, length_encode, hlen, Option.getD_some]
  grind

/-! ## the four lengths -/

/-- The first byte `x` announces an encoding of `2 ^ k` bytes. -/
def Announces (x : UInt8) (k : Nat) : Prop := ((x &&& 0xc0) >>> 6).toNat = k

instance (x : UInt8) (k : Nat) : Decidable (Announces x k) := inferInstanceAs (Decidable (_ = _))

/-- The value bits of the first byte. -/
def valueBits (x : UInt8) : Nat := (x &&& (0xff - 0xc0)).toNat

variable {s : σ} {x : UInt8}

/-! ## the round trip -/

/-- The length bits and the value bits of a first byte do not overlap. -/
theorem first_byte : ∀ i < 64, (Announces (UInt8.ofNat i) 0 ∧ valueBits (UInt8.ofNat i) = i) ∧
    (Announces (UInt8.ofNat i ||| 0x40) 1 ∧ valueBits (UInt8.ofNat i ||| 0x40) = i) ∧
    (Announces (UInt8.ofNat i ||| 0x80) 2 ∧ valueBits (UInt8.ofNat i ||| 0x80) = i) ∧
    (Announces (UInt8.ofNat i ||| 0xc0) 3 ∧ valueBits (UInt8.ofNat i ||| 0xc0) = i) := by
  decide

/-- The encodings of a value: in one, two, four or eight bytes, not necessarily the shortest. -/
inductive Encodes : Bytes → Nat → Prop where
  | one {x : UInt8} (h : Announces x 0) : Encodes [x] (valueBits x)
  | two {x : UInt8} (h : Announces x 1) (b2 : UInt8) :
      Encodes [x, b2] (b2.toNat + valueBits x <<< 8)
  | four {x : UInt8} (h : Announces x 2) (b2 b3 b4 : UInt8) :
      Encodes [x, b2, b3, b4]
        (b4.toNat + b3.toNat <<< 8 + b2.toNat <<< 16 + valueBits x <<< 24)
  | eight {x : UInt8} (h : Announces x 3) (b2 b3 b4 b5 b6 b7 b8 : UInt8) :
      Encodes [x, b2, b3, b4, b5, b6, b7, b8]
        (b8.toNat + b7.toNat <<< 8 + b6.toNat <<< 16 + b5.toNat <<< 24 + b4.toNat <<< 32 +
          b3.toNat <<< 40 + b2.toNat <<< 48 + valueBits x <<< 56)

/-- The number with the leading bits `v` and then the bytes `bs`. -/
def bigEndian (v : Nat) (bs : Bytes) : Nat := bs.foldl (fun v b => v * 256 + b.toNat) v

theorem encodes_bigEndian {bs : Bytes} {k : Nat} (hk : k < 4) (hx : Announces x k)
    (hlen : bs.length + 1 = 2 ^ k) : Encodes (x :: bs) (bigEndian (valueBits x) bs) := by
  obtain rfl | rfl | rfl | rfl : k = 0 ∨ k = 1 ∨ k = 2 ∨ k = 3 := by omega
  · match bs, hlen with
    | [], _ => exact .one hx
  · match bs, hlen with
    | [b2], _ =>
      convert Encodes.two hx b2 using 1
      simp [bigEndian, Nat.shiftLeft_eq]
      omega
  · match bs, hlen with
    | [b2, b3, b4], _ =>
      convert Encodes.four hx b2 b3 b4 using 1
      simp [bigEndian, Nat.shiftLeft_eq]
      omega
  · match bs, hlen with
    | [b2, b3, b4, b5, b6, b7, b8], _ =>
      convert Encodes.eight hx b2 b3 b4 b5 b6 b7 b8 using 1
      simp [bigEndian, Nat.shiftLeft_eq]
      omega

theorem lowBytes_succ (i l : Nat) :
    lowBytes i (l + 1) = UInt8.ofNat (i >>> (8 * l)) :: lowBytes i l := by
  simp only [lowBytes, List.range_succ_eq_map, List.map_cons, List.map_map]
  congr 1
  refine List.map_congr_left fun j _ => ?_
  simp only [Function.comp]
  congr 3
  omega

theorem bigEndian_lowBytes (v i l : Nat) :
    bigEndian v (lowBytes i l) = v * 256 ^ l + i % 256 ^ l := by
  induction l generalizing v with
  | zero => simp [lowBytes, bigEndian, Nat.mod_one]
  | succ l ih =>
    have hpow : 2 ^ (8 * l) = 256 ^ l := by rw [Nat.pow_mul]
    rw [lowBytes_succ, bigEndian, List.foldl_cons, ← bigEndian, ih, Nat.pow_succ, Nat.mod_mul,
      UInt8.toNat_ofNat', Nat.shiftRight_eq_div_pow, hpow]
    grind

theorem encodes_lowBytes {l k : Nat} (hk : k < 4) (hl : l + 1 = 2 ^ k)
    (hx : Announces x k ∧ valueBits x = i >>> (8 * l)) : Encodes (x :: lowBytes i l) i := by
  have hlen : (lowBytes i l).length + 1 = 2 ^ k := by simp [lowBytes, hl]
  have h := encodes_bigEndian hk hx.1 hlen
  rwa [bigEndian_lowBytes, hx.2, Nat.shiftRight_eq_div_pow, Nat.pow_mul, Nat.div_add_mod'] at h

/-- `Append` adds an encoding of its value. -/
theorem encodes_encode (hi : i < 2 ^ 62) : Encodes (encode i) i := by
  have hfirst {l : Nat} (h : i < 64 * 2 ^ (8 * l)) := first_byte (i >>> (8 * l)) (by
    rw [Nat.shiftRight_eq_div_pow]
    exact Nat.div_lt_of_lt_mul (by rwa [Nat.mul_comm]))
  unfold encode append maxVarInt1 maxVarInt2 maxVarInt4 maxVarInt8
  split
  · exact encodes_lowBytes (k := 0) (by decide) rfl (hfirst (l := 0) (by omega)).1
  · split
    · exact encodes_lowBytes (k := 1) (by decide) rfl (hfirst (l := 1) (by omega)).2.1
    · split
      · exact encodes_lowBytes (k := 2) (by decide) rfl (hfirst (l := 3) (by omega)).2.2.1
      · rw [if_pos (by omega)]
        exact encodes_lowBytes (k := 3) (by decide) rfl (hfirst (l := 7) (by omega)).2.2.2

theorem bigEndian_zeros (m : Nat) (bs : Bytes) :
    bigEndian 0 (List.replicate m 0 ++ bs) = bigEndian 0 bs := by
  induction m with
  | zero => rfl
  | succ m ih => exact ih

/-- `AppendWithLen` adds an encoding of its value, of the length asked for. -/
theorem encodes_appendWithLen {n l : Nat} (b : Bytes) (hi : i < 2 ^ 62) (hlen : len i = some n)
    (hl : l ∈ [1, 2, 4, 8]) (hle : n ≤ l) :
    ∃ bs, appendWithLen b i l = some (b ++ bs) ∧ Encodes bs i ∧ bs.length = l := by
  obtain ⟨n', hn, hlen', hholds⟩ := len_spec hi
  cases hlen.symm.trans hlen'
  by_cases heq : n = l
  · refine ⟨encode i, ?_, encodes_encode hi, ?_⟩
    · unfold appendWithLen
      rw [guard, if_pos hl]
      simp [hlen, heq, append_eq b hi]
    · rw [length_encode, hlen, heq, Option.getD_some]
  · have hmod : i % 256 ^ n = i := by
      refine Nat.mod_eq_of_lt (((hholds n hn).mp le_rfl).trans_le ?_)
      grind
    have hlong {x : UInt8} {k : Nat} (hk : k < 4) (hl : l = 2 ^ k)
        (hx : Announces x k ∧ valueBits x = 0)
        (happ : appendWithLen b i l =
          some (b ++ [x] ++ List.replicate (l - n - 1) 0 ++ lowBytes i n)) :
        ∃ bs, appendWithLen b i l = some (b ++ bs) ∧ Encodes bs i ∧ bs.length = l := by
      have hbytes : (List.replicate (l - n - 1) 0 ++ lowBytes i n).length + 1 = l := by
        simp [lowBytes]
        omega
      have h := encodes_bigEndian hk hx.1 (hbytes.trans hl)
      rw [hx.2, bigEndian_zeros, bigEndian_lowBytes, Nat.zero_mul, Nat.zero_add, hmod] at h
      exact ⟨_, by simp [happ], h, hbytes⟩
    obtain rfl | rfl | rfl | rfl : l = 1 ∨ l = 2 ∨ l = 4 ∨ l = 8 := by simpa using hl
    · grind
    · exact hlong (x := 0x40) (k := 1) (by decide) rfl (by decide)
        (by unfold appendWithLen; rw [guard, if_pos hl]; simp [hlen, heq, hle.not_gt])
    · exact hlong (x := 0x80) (k := 2) (by decide) rfl (by decide)
        (by unfold appendWithLen; rw [guard, if_pos hl]; simp [hlen, heq, hle.not_gt])
    · exact hlong (x := 0xc0) (k := 3) (by decide) rfl (by decide)
        (by unfold appendWithLen; rw [guard, if_pos hl]; simp [hlen, heq, hle.not_gt])

/-- `Read` returns the value of any encoding. -/
theorem Encodes.exact_read {bs : Bytes} (h : Encodes bs v) :
    Exact (read : Parse ε σ Nat) s bs v s := by
  cases h with
  | one h =>
    refine (exact_readByte _ s).bind ?_
    dsimp only
    rw [h, if_pos (by decide)]
    exact Exact.pure _ s
  | two h b2 =>
    refine (exact_readByte _ s).bind ?_
    dsimp only
    rw [h, if_neg (by decide)]
    refine (exact_readByte b2 s).bind ?_
    rw [if_pos (by decide)]
    exact Exact.pure _ s
  | four h b2 b3 b4 =>
    refine (exact_readByte _ s).bind ?_
    dsimp only
    rw [h, if_neg (by decide)]
    refine (exact_readByte b2 s).bind ?_
    rw [if_neg (by decide)]
    refine (exact_readByte b3 s).bind ?_
    refine (exact_readByte b4 s).bind ?_
    rw [if_pos (by decide)]
    exact Exact.pure _ s
  | eight h b2 b3 b4 b5 b6 b7 b8 =>
    refine (exact_readByte _ s).bind ?_
    dsimp only
    rw [h, if_neg (by decide)]
    refine (exact_readByte b2 s).bind ?_
    rw [if_neg (by decide)]
    refine (exact_readByte b3 s).bind ?_
    refine (exact_readByte b4 s).bind ?_
    rw [if_neg (by decide)]
    refine (exact_readByte b5 s).bind ?_
    refine (exact_readByte b6 s).bind ?_
    refine (exact_readByte b7 s).bind ?_
    refine (exact_readByte b8 s).bind ?_
    exact Exact.pure _ s

/-- **Round trip**: `Read` returns the value that was appended and leaves what
follows, and it fails on every strict prefix. -/
theorem exact_read (hi : i < 2 ^ 62) : Exact (read : Parse ε σ Nat) s (encode i) i s :=
  (encodes_encode hi).exact_read

/-! ## what `Read` can do -/

theorem valueBits_eq_mod (x : UInt8) : valueBits x = x.toNat % 64 := by
  have h : valueBits x = x.toNat &&& 63 := UInt8.toNat_and x 63
  rw [h]
  exact Nat.and_two_pow_sub_one_eq_mod x.toNat 6

theorem valueBits_lt (x : UInt8) : valueBits x < 64 := by
  rw [valueBits_eq_mod]
  exact Nat.mod_lt _ (by decide)

/-- A value read from `n` bytes fits 62 bits and has no longer encoding. -/
def Fits (n v : Nat) : Prop := v < 2 ^ 62 ∧ (encode v).length ≤ n

theorem fits_of_lt {l : Nat} (hl : l ∈ [1, 2, 4, 8]) (h : v < 2 ^ (8 * l - 2)) : Fits l v := by
  have hv : v < 2 ^ 62 := by grind
  obtain ⟨n, -, hlen, hholds⟩ := len_spec hv
  rw [Fits, length_encode, hlen]
  exact ⟨hv, (hholds l hl).mpr h⟩

/-- `Read` fails only at the end of the stream, and a value it returns takes at
least as many bytes as its shortest encoding. -/
theorem spends_read : Spends Fits 0 (read : Parse ε σ Nat) := by
  refine Spends.readByte_bind fun x => ?_
  have hx : (x &&& (0xff - 0xc0)).toNat < 64 := valueBits_lt x
  dsimp only
  generalize (x &&& (0xff - 0xc0)).toNat = v at hx ⊢
  split
  · exact Spends.pure (fits_of_lt (by decide) (by omega))
  · refine Spends.readByte_bind fun b2 => ?_
    have h2 := b2.toNat_lt
    split
    · refine Spends.pure (fits_of_lt (by decide) ?_)
      simp only [Nat.shiftLeft_eq]
      omega
    · refine Spends.readByte_bind fun b3 => Spends.readByte_bind fun b4 => ?_
      have h3 := b3.toNat_lt
      have h4 := b4.toNat_lt
      split
      · refine Spends.pure (fits_of_lt (by decide) ?_)
        simp only [Nat.shiftLeft_eq]
        omega
      · refine Spends.readByte_bind fun b5 => Spends.readByte_bind fun b6 => ?_
        refine Spends.readByte_bind fun b7 => Spends.readByte_bind fun b8 => ?_
        have h5 := b5.toNat_lt
        have h6 := b6.toNat_lt
        have h7 := b7.toNat_lt
        have h8 := b8.toNat_lt
        refine Spends.pure (fits_of_lt (by decide) ?_)
        simp only [Nat.shiftLeft_eq]
        omega

/-- No encoding of a value is shorter than that of `Append`. -/
theorem Encodes.fits {bs : Bytes} (h : Encodes bs v) : Fits bs.length v := by
  let _ : StreamError Unit := ⟨(), ()⟩
  have hread := (h.exact_read (ε := Unit) (s := ())).reads []
  rw [List.append_nil] at hread
  obtain herr | ⟨a, used, rest, rfl, hok, hfits⟩ := spends_read (ε := Unit) () bs
  · rw [hread] at herr
    cases herr
  · rw [hread] at hok
    cases hok
    rwa [Nat.zero_add, List.append_nil] at *

theorem yields_read : Yields (· < 2 ^ 62) (read : Parse ε σ Nat) := by
  intro s r v s' r' h
  obtain herr | ⟨a, _, _, _, hok, hfits⟩ := spends_read (ε := ε) s r
  · simp [h] at herr
  · simp only [h, Prod.mk.injEq, Except.ok.injEq] at hok
    exact hok.1 ▸ hfits.1

/-- On a strict prefix of an encoding, `Read` reports the end of the stream. -/
theorem read_starves (hi : i < 2 ^ 62) {cut : Bytes} (hpre : cut <+: encode i)
    (hne : cut ≠ encode i) (s : σ) :
    (read : Parse ε σ Nat) s cut = (.error StreamError.eof, s, []) := by
  obtain ⟨e, s', hrun⟩ := (exact_read hi : Exact (read : Parse ε σ Nat) s _ i s).starves cut hpre hne
  obtain herr | ⟨v, used, rest, -, hok, -⟩ :=
    (spends_read : Spends Fits 0 (read : Parse ε σ Nat)) s cut
  · exact herr
  · rw [hrun] at hok
    simp at hok

end MoqQuic.Quicvarint
