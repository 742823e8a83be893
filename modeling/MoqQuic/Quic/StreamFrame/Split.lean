import MoqQuic.Quic.StreamFrame

/-!
# MoqQuic.Quic.StreamFrame.Split

How much data fits in a STREAM frame, and what splitting a frame leaves.

`MaxDataLen` takes the length field to be one byte and gives a byte back if it is two.
-/

namespace MoqQuic.Quic

theorem varintLen_of_lt {m : Nat} (h : m < 16384) :
    varintLen m = .ok (if m ≤ 63 then 1 else 2) := by
  have h2 : m ≤ Quicvarint.maxVarInt2 := Nat.le_of_lt_succ h
  simp only [varintLen, Quicvarint.len, if_pos h2, Quicvarint.maxVarInt1]
  by_cases h1 : m ≤ 63 <;> simp [h1]

/-- A length field has a byte, and two bytes from 64 on. -/
theorem le_varintLen {m l : Nat} (h : varintLen m = .ok l) : (if m ≤ 63 then 1 else 2) ≤ l := by
  simp only [varintLen, Quicvarint.len, Quicvarint.maxVarInt1] at h
  grind

namespace StreamFrame

variable {f : StreamFrame} {maxSize : Int} {p m : Nat}

/-- A frame from the pool, whose data ends within the offsets of a stream. -/
structure Pooled (f : StreamFrame) : Prop where
  streamID : f.streamID < 2 ^ 62
  stop : f.offset + f.dataLen < 2 ^ 62
  buffer : f.dataLen ≤ MaxPacketBufferSize

/-- The frame has a length of at most `maxSize`. -/
def Within (f : StreamFrame) (maxSize : Int) : Prop := ∃ l : Nat, f.length = .ok l ∧ l ≤ maxSize

/-- The frame fits when it carries `m` bytes. -/
def Fits (f : StreamFrame) (maxSize : Int) (m : Nat) : Prop :=
  ∀ data, data.length = m → Within { f with data := data } maxSize

theorem Pooled.prefixLen (hf : f.Pooled) : ∃ p, f.prefixLen = .ok p := by
  have hoffset : f.offset < 2 ^ 62 := Nat.lt_of_le_of_lt (Nat.le_add_right ..) hf.stop
  simp only [StreamFrame.prefixLen, varintLen, Quicvarint.len_eq hf.streamID,
    Quicvarint.len_eq hoffset, bind, Except.bind]
  split <;> exact ⟨_, rfl⟩

theorem within_iff (hp : f.prefixLen = .ok p) : f.Within maxSize ↔
    if f.dataLenPresent then ∃ l, varintLen f.data.length = .ok l ∧ p + l + f.data.length ≤ maxSize
    else p + f.data.length ≤ maxSize := by
  simp only [Within, length, hp, bind, Except.bind, dataLen]
  cases f.dataLenPresent <;> cases varintLen f.data.length <;> simp [pure, Except.pure]

theorem fits_iff (hp : f.prefixLen = .ok p) : f.Fits maxSize m ↔
    if f.dataLenPresent then ∃ l, varintLen m = .ok l ∧ p + l + m ≤ maxSize
    else p + m ≤ maxSize := by
  have hwithin data : Within { f with data := data } maxSize ↔ _ := within_iff hp
  constructor
  · intro h
    simpa using (hwithin _).mp (h (List.replicate m 0) List.length_replicate)
  · rintro h data rfl
    exact (hwithin data).mpr h

/-- **`MaxDataLen`** is the largest amount of data that fits. -/
theorem maxDataLen_spec (hp : f.prefixLen = .ok p) (hmax : maxSize < 16384) :
    ∃ n, f.maxDataLen maxSize = .ok n ∧ ∀ m, (f.Fits maxSize m → m ≤ n) ∧
      (0 < n → m ≤ n → f.Fits maxSize m) := by
  simp only [fits_iff hp, maxDataLen, hp, bind, Except.bind]
  cases f.dataLenPresent with
  | false =>
    simp only [Bool.false_eq_true, if_false]
    split
    · exact ⟨0, rfl, by omega⟩
    · exact ⟨_, rfl, by omega⟩
  | true =>
    simp only [if_true]
    split
    · refine ⟨0, rfl, fun m => ⟨fun ⟨l, hl, hm⟩ => ?_, by omega⟩⟩
      grind [le_varintLen hl]
    · generalize hx : (maxSize - ↑(p + 1)).toNat = x
      rw [varintLen_of_lt (by omega)]
      refine ⟨_, rfl, fun m => ⟨fun ⟨l, hl, hm⟩ => ?_, fun _ hm => ?_⟩⟩
      · grind [le_varintLen hl]
      · exact ⟨_, varintLen_of_lt (by grind), by grind⟩

/-- What is split off fits and has no FIN; what is left has it, is not empty, and follows. -/
structure Splits (f : StreamFrame) (maxSize : Int) (new rest : StreamFrame) : Prop where
  within : new.Within maxSize
  noFin : new.fin = false
  nonempty : rest.data ≠ []
  fin : rest.fin = f.fin
  follows : rest.offset = new.offset + new.dataLen
  data : new.data ++ rest.data = f.data

/-- **Splitting** a frame is tight and loses nothing. -/
theorem maybeSplitOffFrame_lossless (hf : f.Pooled) (hmax : maxSize < 16384) :
    (∃ n, f.maxDataLen maxSize = .ok n ∧ (n = 0 ∨ f.Fits maxSize n) ∧
      ∀ m, 0 < m → f.Fits maxSize m → m ≤ n) ∧
    ∃ rest split required, f.maybeSplitOffFrame maxSize = .ok (rest, split, required) ∧
      ∀ new, split = some new → Splits f maxSize new rest := by
  obtain ⟨p, hp⟩ := hf.prefixLen
  obtain ⟨n, hn, hlargest⟩ := maxDataLen_spec hp hmax
  refine ⟨⟨n, hn, ?_, fun m _ => (hlargest m).1⟩, ?_⟩
  · exact n.eq_zero_or_pos.imp_right fun hpos => (hlargest n).2 hpos le_rfl
  · obtain ⟨l, hl⟩ : ∃ l, f.length = .ok l := by
      have hlen := hf.buffer
      simp only [length, hp, bind, Except.bind, varintLen_of_lt (hlen.trans_lt (by decide))]
      split <;> exact ⟨_, rfl⟩
    simp only [maybeSplitOffFrame, hl, hn, bind, Except.bind]
    split
    · exact ⟨_, _, _, rfl, by simp⟩
    · next hlong =>
      split
      · exact ⟨_, _, _, rfl, by simp⟩
      · next hzero =>
        have hlt : n < f.data.length := by
          by_contra hle
          obtain ⟨l', hl', hle'⟩ := (hlargest f.data.length).2 (by omega) (by omega) f.data rfl
          cases hl.symm.trans hl'
          exact hlong hle'
        rw [if_neg (by grind [dataLen])]
        refine ⟨_, _, _, rfl, fun new hnew => ?_⟩
        cases hnew
        have hlen : (f.data.take n).length = n := List.length_take_of_le hlt.le
        exact {
          within := (hlargest n).2 (by omega) le_rfl (f.data.take n) hlen
          noFin := rfl
          nonempty := by simp [hlt]
          fin := rfl
          follows := by simp [dataLen, hlen]
          data := List.take_append_drop n f.data }

/-- A frame of 65 bytes is split at the boundary of the length field. -/
theorem maybeSplitOffFrame_at_boundary :
    ∃ rest split required,
      maybeSplitOffFrame ⟨4, 0, .replicate 65 7, true, true⟩ 67 = .ok (rest, split, required) ∧
        ∀ new, split = some new → Splits ⟨4, 0, .replicate 65 7, true, true⟩ 67 new rest :=
  (maybeSplitOffFrame_lossless ⟨by decide, by decide, by decide⟩ (by decide)).2

end StreamFrame

end MoqQuic.Quic
