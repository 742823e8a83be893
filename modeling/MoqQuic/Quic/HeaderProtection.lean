import MoqQuic.Quic.Header

/-!
# MoqQuic.Quic.HeaderProtection

Header protection and packet protection: `internal/handshake/header_protector.go` and the
interfaces of the sealers and openers.

The mask is any function of the 16 bytes of the sample, and the AEAD any pair of functions:
`Opens` says that the receiver has the key of the sender. The first byte and the bytes of the packet
number are masked in place, so that the receiver, who doesn't know yet how long the packet number
is, unmasks four bytes and restores those that were no part of it.
-/

namespace MoqQuic.Quic

/-- The overhead of the AEAD of each cipher suite. -/
def sealerOverhead : Nat := 16

/-! ## header protection -/

/-- `headerProtector`: AES gives a mask of 16 bytes, ChaCha20 one of 5 bytes. -/
structure HeaderProtector where
  mask : Bytes → Bytes
  length_mask : ∀ sample, 5 ≤ (mask sample).length
  isLongHeader : Bool

namespace HeaderProtector

/-- `apply`: the first byte and the bytes of the packet number under the mask. -/
def apply (hp : HeaderProtector) (sample : Bytes) (firstByte : UInt8) (hdrBytes : Bytes) :
    UInt8 × Bytes :=
  let mask := hp.mask sample
  (firstByte ^^^ (mask.headD 0 &&& if hp.isLongHeader then 0xf else 0x1f),
    List.zipWith (· ^^^ ·) hdrBytes mask.tail)

/-- `EncryptHeader` and `DecryptHeader` called on a packet whose packet number starts at `pnOffset`:
`n` bytes from there on are masked. The sample starts where a packet number of four bytes would
end. -/
def applyAt (hp : HeaderProtector) (raw : Bytes) (pnOffset n : Nat) : Bytes :=
  match raw with
  | [] => []
  | firstByte :: rest =>
    let (firstByte', pnBytes) :=
      hp.apply ((raw.drop (pnOffset + 4)).take 16) firstByte ((raw.drop pnOffset).take n)
    firstByte' :: rest.take (pnOffset - 1) ++ pnBytes ++ raw.drop (pnOffset + n)

end HeaderProtector

/-! ## sealers and openers -/

/-- What `LongHeaderSealer` and `ShortHeaderSealer` have in common. -/
structure Sealer where
  sealed : Bytes → PacketNumber → Bytes → Bytes
  length_sealed : ∀ src pn ad, (sealed src pn ad).length = src.length + sealerOverhead
  hp : HeaderProtector

structure LongHeaderSealer extends Sealer where
  longHeader : hp.isLongHeader = true

structure ShortHeaderSealer extends Sealer where
  shortHeader : hp.isLongHeader = false
  keyPhase : KeyPhaseBit

inductive OpenError where
  /-- `ErrDecryptionFailed` -/
  | decryptionFailed
  /-- a transport error with the code `KEY_UPDATE_ERROR` -/
  | keyUpdateError
  /-- a transport error with the code `AEAD_LIMIT_REACHED` -/
  | aeadLimitReached
  deriving DecidableEq, Repr

structure LongHeaderOpener where
  decodePacketNumber : PacketNumber → PacketNumberLen → PacketNumber
  opened : Bytes → PacketNumber → Bytes → Except OpenError Bytes
  hp : HeaderProtector

structure ShortHeaderOpener where
  decodePacketNumber : PacketNumber → PacketNumberLen → PacketNumber
  opened : Bytes → Time → PacketNumber → KeyPhaseBit → Bytes → Except OpenError Bytes
  hp : HeaderProtector

/-- `ErrKeysNotYetAvailable` and `ErrKeysDropped`. -/
inductive KeysError where
  | notYetAvailable
  | dropped
  deriving DecidableEq, Repr

/-- The opener has the keys of the sealer. -/
structure LongHeaderOpener.Opens (o : LongHeaderOpener) (s : LongHeaderSealer) : Prop where
  opened_sealed : ∀ src pn ad, o.opened (s.sealed src pn ad) pn ad = .ok src
  hp_eq : o.hp = s.hp

/-- The opener has the keys of the sealer, when it gets a packet with the key phase `kp` at
`rcvTime`. -/
structure ShortHeaderOpener.Opens (o : ShortHeaderOpener) (s : Sealer) (rcvTime : Time)
    (kp : KeyPhaseBit) : Prop where
  opened_sealed : ∀ src pn ad, o.opened (s.sealed src pn ad) rcvTime pn kp ad = .ok src
  hp_eq : o.hp = s.hp

/-! ## masking twice -/

theorem xor_xor_cancel (a b : UInt8) : a ^^^ b ^^^ b = a := by
  rw [UInt8.xor_assoc, UInt8.xor_self, UInt8.xor_zero]

/-- The mask is applied to one part after the other. -/
theorem zipWith_xor_append : ∀ {bs cs mask : Bytes}, bs.length ≤ mask.length →
    List.zipWith (· ^^^ ·) (bs ++ cs) mask =
      List.zipWith (· ^^^ ·) bs mask ++ List.zipWith (· ^^^ ·) cs (mask.drop bs.length)
  | [], _, _, _ => rfl
  | b :: bs, cs, [], h => by simp at h
  | b :: bs, cs, m :: mask, h => by
    simp only [List.length_cons, Nat.add_le_add_iff_right] at h
    simp [zipWith_xor_append h]

/-- The same mask twice. -/
theorem zipWith_xor_cancel : ∀ {bs mask : Bytes}, bs.length ≤ mask.length →
    List.zipWith (· ^^^ ·) (List.zipWith (· ^^^ ·) bs mask) mask = bs
  | [], _, _ => rfl
  | b :: bs, [], h => by simp at h
  | b :: bs, m :: mask, h => by
    simp only [List.length_cons, Nat.add_le_add_iff_right] at h
    simp [xor_xor_cancel, zipWith_xor_cancel h]

namespace HeaderProtector

variable (hp : HeaderProtector)

theorem length_apply (sample : Bytes) (firstByte : UInt8) (hdrBytes : Bytes)
    (h : hdrBytes.length ≤ 4) : (hp.apply sample firstByte hdrBytes).2.length = hdrBytes.length := by
  have := hp.length_mask sample
  simp only [apply, List.length_zipWith, List.length_tail]
  omega

/-- Unmasking some more bytes. -/
theorem apply_apply (sample : Bytes) (firstByte : UInt8) {pn tail : Bytes}
    (h : pn.length + tail.length = 4) :
    ∃ tail', tail'.length = tail.length ∧
      hp.apply sample (hp.apply sample firstByte pn).1 ((hp.apply sample firstByte pn).2 ++ tail) =
        (firstByte, pn ++ tail') := by
  have hmask := hp.length_mask sample
  have hpn := hp.length_apply sample firstByte pn (by omega)
  have hle : pn.length ≤ (hp.mask sample).tail.length := by
    rw [List.length_tail]
    omega
  refine ⟨List.zipWith (· ^^^ ·) tail ((hp.mask sample).tail.drop pn.length), ?_, ?_⟩
  · rw [List.length_zipWith, List.length_drop, List.length_tail]
    omega
  · simp only [apply] at hpn ⊢
    rw [xor_xor_cancel, zipWith_xor_append (by rw [hpn]; exact hle), hpn, zipWith_xor_cancel hle]

/-- What the mask does to a packet that is given by its parts. -/
theorem applyAt_append (firstByte : UInt8) (mid pn body : Bytes) {pnOffset : Nat}
    (hoff : pnOffset = mid.length + 1) (hpn : pn.length ≤ 4) :
    hp.applyAt (firstByte :: (mid ++ (pn ++ body))) pnOffset pn.length =
      let r := hp.apply ((body.drop (4 - pn.length)).take 16) firstByte pn
      r.1 :: (mid ++ (r.2 ++ body)) := by
  subst hoff
  have hsample : (pn ++ body).drop 4 = body.drop (4 - pn.length) := by
    rw [List.drop_append, List.drop_eq_nil_of_le hpn, List.nil_append]
  have hdrop : ∀ n, (firstByte :: (mid ++ (pn ++ body))).drop (mid.length + 1 + n) =
      (pn ++ body).drop n := fun n => by
    rw [Nat.add_right_comm, List.drop_succ_cons, ← List.drop_drop, List.drop_left]
  have hpnBytes := hdrop 0
  simp only [Nat.add_zero, List.drop_zero] at hpnBytes
  simp [applyAt, hdrop, hsample, hpnBytes]

end HeaderProtector

end MoqQuic.Quic
