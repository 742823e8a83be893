import Mathlib.Data.Int.Bitwise
import MoqQuic.Lib.Parse
import MoqQuic.Quic.SentPacketHistory

/-!
# MoqQuic.Quic.PacketNumber

Packet numbers on the wire: `internal/protocol/packet_number.go`, and `appendPacketNumber` and
`readPacketNumber` of `internal/wire`.

Only the last bytes of a packet number are sent. `decodePacketNumber_eq` says when the receiver gets
the number back: it must be within half a window of the number that the receiver expects.
-/

namespace MoqQuic.Quic

/-- The length of the packet number in bytes. -/
abbrev PacketNumberLen : Type := Nat

def PacketNumberLen1 : PacketNumberLen := 1
def PacketNumberLen2 : PacketNumberLen := 2
def PacketNumberLen3 : PacketNumberLen := 3
def PacketNumberLen4 : PacketNumberLen := 4

/-- `DecodePacketNumber` calculates the packet number based on its length and the last seen packet
number. -/
def decodePacketNumber (length : PacketNumberLen) (largest truncated : PacketNumber) :
    PacketNumber :=
  let expected := largest + 1
  let win : Int := (1 <<< (length * 8) : Nat)
  let hwin := win / 2
  let mask := win - 1
  let candidate := Int.lor (Int.land expected (Int.lnot mask)) truncated
  if candidate ≤ expected - hwin ∧ candidate < (1 <<< 62 : Nat) - win then candidate + win
  else if candidate > expected + hwin ∧ candidate ≥ win then candidate - win
  else candidate

/-- `PacketNumberLengthForHeader`: it never chooses a length of 1 byte. -/
def packetNumberLengthForHeader (pn largestAcked : PacketNumber) : PacketNumberLen :=
  let numUnacked := if largestAcked = InvalidPacketNumber then pn + 1 else pn - largestAcked
  if numUnacked < (1 <<< (16 - 1) : Nat) then PacketNumberLen2
  else if numUnacked < (1 <<< (24 - 1) : Nat) then PacketNumberLen3
  else PacketNumberLen4

/-- `invalid packet number length` -/
structure InvalidPacketNumberLen where
  pnLen : PacketNumberLen
  deriving DecidableEq, Repr

/-- `uint8(pn >> n)` -/
def byteOf (pn : PacketNumber) (n : Nat) : UInt8 := UInt8.ofNat ((pn >>> n) % 256).toNat

/-- `appendPacketNumber`: the last bytes of the number, most significant first. -/
def appendPacketNumber (b : Bytes) (pn : PacketNumber) (pnLen : PacketNumberLen) :
    Except InvalidPacketNumberLen Bytes :=
  if pnLen = PacketNumberLen1 then .ok (b ++ [byteOf pn 0])
  else if pnLen = PacketNumberLen2 then .ok (b ++ [byteOf pn 8, byteOf pn 0])
  else if pnLen = PacketNumberLen3 then .ok (b ++ [byteOf pn 16, byteOf pn 8, byteOf pn 0])
  else if pnLen = PacketNumberLen4 then
    .ok (b ++ [byteOf pn 24, byteOf pn 16, byteOf pn 8, byteOf pn 0])
  else .error ⟨pnLen⟩

/-- `readPacketNumber`; nothing when the data is too short, and it panics. -/
def readPacketNumber (data : Bytes) (pnLen : PacketNumberLen) :
    Option (Except InvalidPacketNumberLen PacketNumber) :=
  if pnLen = PacketNumberLen1 then
    match data with
    | b0 :: _ => some (.ok b0.toNat)
    | _ => none
  else if pnLen = PacketNumberLen2 then
    match data with
    | b0 :: b1 :: _ => some (.ok (b1.toNat + b0.toNat <<< 8 : Nat))
    | _ => none
  else if pnLen = PacketNumberLen3 then
    match data with
    | b0 :: b1 :: b2 :: _ => some (.ok (b2.toNat + b1.toNat <<< 8 + b0.toNat <<< 16 : Nat))
    | _ => none
  else if pnLen = PacketNumberLen4 then
    match data with
    | b0 :: b1 :: b2 :: b3 :: _ =>
      some (.ok (b3.toNat + b2.toNat <<< 8 + b1.toNat <<< 16 + b0.toNat <<< 24 : Nat))
    | _ => none
  else some (.error ⟨pnLen⟩)

/-! ## the candidate -/

/-- Clear the last bits. -/
theorem ldiff_mask (n k : Nat) : Nat.ldiff n (2 ^ k - 1) = 2 ^ k * (n / 2 ^ k) := by
  apply Nat.eq_of_testBit_eq
  intro i
  rw [Nat.testBit_ldiff, Nat.testBit_two_pow_sub_one, Nat.testBit_two_pow_mul,
    Nat.testBit_div_two_pow]
  by_cases hi : i < k
  · simp [hi]
  · simp [hi, not_lt.mp hi]

/-- Clear the last bits and put others in their place. -/
theorem lor_land_lnot_mask (n : Nat) {t k : Nat} (ht : t < 2 ^ k) :
    Int.lor (Int.land n (Int.lnot ((2 ^ k : Nat) - 1))) t = (2 ^ k * (n / 2 ^ k) + t : Nat) := by
  have hmask : ((2 ^ k : Nat) : Int) - 1 = (2 ^ k - 1 : Nat) := by
    have hpos : 1 ≤ 2 ^ k := Nat.one_le_two_pow
    omega
  have hland : Int.land n (Int.lnot (2 ^ k - 1 : Nat)) = (Nat.ldiff n (2 ^ k - 1) : Nat) := rfl
  have hlor : Int.lor (2 ^ k * (n / 2 ^ k) : Nat) t = (2 ^ k * (n / 2 ^ k) ||| t : Nat) := rfl
  rw [hmask, hland, ldiff_mask, hlor, Nat.two_pow_add_eq_or_of_lt ht]

/-- The candidate and the number are at most a window apart when the number is near. -/
theorem window_cases {w e p : Nat} (hlow : e < p + w) (hhigh : p < e + w) :
    w * (p / w) = w * (e / w) ∨ w * (p / w) = w * (e / w) + w ∨ w * (p / w) + w = w * (e / w) := by
  have hw : 0 < w := by omega
  have hp := Nat.div_add_mod p w
  have he := Nat.div_add_mod e w
  have hpm := Nat.mod_lt p hw
  have hem := Nat.mod_lt e hw
  obtain hlt | heq | hgt := Nat.lt_trichotomy (p / w) (e / w)
  · -- two windows below would be too far away
    obtain heq | hlt' := Nat.eq_or_lt_of_le hlt
    · right; right
      rw [← heq, Nat.mul_succ]
    · have hfar := Nat.mul_le_mul_left w hlt'
      rw [Nat.mul_succ, Nat.mul_succ] at hfar
      omega
  · exact .inl (by rw [heq])
  · obtain heq | hgt' := Nat.eq_or_lt_of_le hgt
    · right; left
      rw [← heq, Nat.mul_succ]
    · have hfar := Nat.mul_le_mul_left w hgt'
      rw [Nat.mul_succ, Nat.mul_succ] at hfar
      omega

/-- **`DecodePacketNumber`** finds a number that is within half a window of the expected one. -/
theorem decodePacketNumber_eq {length : Nat} (hlen : 1 ≤ length)
    {largest pn : Int} (hlargest : -1 ≤ largest) (hpn : 0 ≤ pn)
    (hmax : pn < (2 ^ 62 : Nat)) (hlow : largest + 1 < pn + (2 ^ (8 * length - 1) : Nat))
    (hhigh : pn ≤ largest + 1 + (2 ^ (8 * length - 1) : Nat)) :
    decodePacketNumber length largest (pn % (2 ^ (8 * length) : Nat)) = pn := by
  obtain ⟨p, rfl⟩ := Int.eq_ofNat_of_zero_le hpn
  obtain ⟨e, he⟩ := Int.eq_ofNat_of_zero_le (show 0 ≤ largest + 1 by omega)
  have hwin : 2 ^ (8 * length) = 2 * 2 ^ (8 * length - 1) := by
    rw [← Nat.pow_succ']
    congr 1
    omega
  have hpos : 0 < 2 ^ (8 * length) := Nat.two_pow_pos _
  have hcases := window_cases (w := 2 ^ (8 * length)) (e := e) (p := p) (by omega) (by omega)
  have hdiv := Nat.div_add_mod p (2 ^ (8 * length))
  have hmod := Nat.mod_lt p hpos
  have hcandidate : Int.lor (Int.land (largest + 1) (Int.lnot ((1 <<< (length * 8) : Nat) - 1)))
      (p % (2 ^ (8 * length) : Nat)) =
        (2 ^ (8 * length) * (e / 2 ^ (8 * length)) + p % 2 ^ (8 * length) : Nat) := by
    rw [he, Nat.shiftLeft_eq, Nat.one_mul, Nat.mul_comm length 8, ← Int.natCast_mod]
    exact lor_land_lnot_mask e hmod
  rw [decodePacketNumber]
  simp only [hcandidate]
  rw [he, Nat.shiftLeft_eq, Nat.one_mul, Nat.mul_comm length 8, Nat.shiftLeft_eq, Nat.one_mul]
  clear hcandidate
  generalize 2 ^ (8 * length) = w at *
  generalize 2 ^ (8 * length - 1) = half at *
  generalize w * (e / w) = c at *
  obtain heq | heq | heq := hcases
  · have hsame : ((c + p % w : Nat) : Int) = p := by omega
    rw [if_neg (by omega), if_neg (by omega)]
    exact hsame
  · have hnext : ((c + p % w : Nat) : Int) + w = p := by omega
    rw [if_pos (by omega)]
    exact hnext
  · have hprevious : ((c + p % w : Nat) : Int) - w = p := by omega
    rw [if_neg (by omega), if_pos (by omega)]
    exact hprevious

/-! ## the bytes -/

theorem toNat_byteOf (pn n : Nat) : (byteOf pn n).toNat = pn / 2 ^ n % 256 := by
  have hshift : (pn : Int) >>> n = (pn / 2 ^ n : Nat) := by
    rw [Int.shiftRight_eq_div_pow]
    norm_cast
  rw [byteOf, hshift]
  have hmod : (((pn / 2 ^ n : Nat) : Int) % 256).toNat = pn / 2 ^ n % 256 := by omega
  rw [hmod, UInt8.toNat_ofNat', Nat.mod_mod]

/-- **Truncation**: what is read is the rest of the number modulo the window. -/
theorem readPacketNumber_append {pn : Int} (hpn : 0 ≤ pn) {pnLen : Nat} (hlen : 1 ≤ pnLen ∧ pnLen ≤ 4)
    (b data : Bytes) : ∃ bs, appendPacketNumber b pn pnLen = .ok (b ++ bs) ∧ bs.length = pnLen ∧
      readPacketNumber (bs ++ data) pnLen = some (.ok (pn % (2 ^ (8 * pnLen) : Nat))) := by
  obtain ⟨p, rfl⟩ := Int.eq_ofNat_of_zero_le hpn
  have hok {n m : Nat} (h : n = m) :
      (some (.ok n) : Option (Except InvalidPacketNumberLen PacketNumber)) = some (.ok m) := by
    rw [h]
  obtain rfl | rfl | rfl | rfl : pnLen = 1 ∨ pnLen = 2 ∨ pnLen = 3 ∨ pnLen = 4 := by omega
  · have hvalue : (byteOf p 0).toNat = p % 2 ^ (8 * 1) := by
      rw [toNat_byteOf]
      omega
    exact ⟨[byteOf p 0], rfl, rfl, hok hvalue⟩
  · have hvalue : (byteOf p 0).toNat + (byteOf p 8).toNat <<< 8 = p % 2 ^ (8 * 2) := by
      simp only [toNat_byteOf, Nat.shiftLeft_eq]
      omega
    exact ⟨[byteOf p 8, byteOf p 0], rfl, rfl, hok hvalue⟩
  · have hvalue : (byteOf p 0).toNat + (byteOf p 8).toNat <<< 8 + (byteOf p 16).toNat <<< 16 =
        p % 2 ^ (8 * 3) := by
      simp only [toNat_byteOf, Nat.shiftLeft_eq]
      omega
    exact ⟨[byteOf p 16, byteOf p 8, byteOf p 0], rfl, rfl, hok hvalue⟩
  · have hvalue : (byteOf p 0).toNat + (byteOf p 8).toNat <<< 8 + (byteOf p 16).toNat <<< 16 +
        (byteOf p 24).toNat <<< 24 = p % 2 ^ (8 * 4) := by
      simp only [toNat_byteOf, Nat.shiftLeft_eq]
      omega
    exact ⟨[byteOf p 24, byteOf p 16, byteOf p 8, byteOf p 0], rfl, rfl, hok hvalue⟩

/-! ## the length -/

/-- **`PacketNumberLengthForHeader`** chooses a window of more than twice the number of packets that
are not acknowledged. -/
theorem packetNumberLengthForHeader_spec {pn largestAcked : Int}
    (hunacked : pn - largestAcked < (2 ^ 31 : Nat)) :
    (2 ≤ packetNumberLengthForHeader pn largestAcked ∧
      packetNumberLengthForHeader pn largestAcked ≤ 4) ∧
    pn - largestAcked < (2 ^ (8 * packetNumberLengthForHeader pn largestAcked - 1) : Nat) := by
  have hnum : (if largestAcked = InvalidPacketNumber then pn + 1 else pn - largestAcked) =
      pn - largestAcked := by
    split
    · rename_i h
      rw [h, InvalidPacketNumber]
      ring
    · rfl
  rw [packetNumberLengthForHeader]
  simp only [hnum]
  split
  · rename_i hlt
    exact ⟨by decide, hlt⟩
  · split
    · rename_i hlt
      exact ⟨by decide, hlt⟩
    · exact ⟨by decide, hunacked⟩

/-- **Packet number compression is lossless**: the receiver gets the number back from the bytes that
are sent, as long as it has not received much higher ones. -/
theorem packetNumber_lossless (pn largestAcked largestReceived : Int)
    (hinvalid : -1 ≤ largestAcked) (hle : largestAcked ≤ largestReceived) (hpn : 0 ≤ pn)
    (hmax : pn < (2 ^ 62 : Nat)) (hunacked : pn - largestAcked < (2 ^ 31 : Nat))
    (hreceived : largestReceived <
      pn + (2 ^ (8 * packetNumberLengthForHeader pn largestAcked - 1) : Nat) - 1) :
    decodePacketNumber (packetNumberLengthForHeader pn largestAcked) largestReceived
      (pn % (2 ^ (8 * packetNumberLengthForHeader pn largestAcked) : Nat)) = pn ∧
    ∀ b data, ∃ bs,
      appendPacketNumber b pn (packetNumberLengthForHeader pn largestAcked) = .ok (b ++ bs) ∧
      readPacketNumber (bs ++ data) (packetNumberLengthForHeader pn largestAcked) =
        some (.ok (pn % (2 ^ (8 * packetNumberLengthForHeader pn largestAcked) : Nat))) := by
  obtain ⟨⟨hmin, hfour⟩, hhalf⟩ := packetNumberLengthForHeader_spec hunacked
  generalize packetNumberLengthForHeader pn largestAcked = length at *
  have hone : 1 ≤ length := Nat.le_trans (by decide) hmin
  refine ⟨decodePacketNumber_eq hone (hinvalid.trans hle) hpn hmax ?_ ?_, fun b data => ?_⟩
  · omega
  · omega
  · obtain ⟨bs, happend, -, hread⟩ := readPacketNumber_append hpn ⟨hone, hfour⟩ b data
    exact ⟨bs, happend, hread⟩

theorem shortNumber_lossless : packetNumberLengthForHeader 0xa82f9b32 0xa82f30ea = 2 ∧
    decodePacketNumber 2 0xa82f30ea (0xa82f9b32 % (2 ^ (8 * 2) : Nat)) = 0xa82f9b32 :=
  ⟨by decide, (packetNumber_lossless 0xa82f9b32 0xa82f30ea 0xa82f30ea (by decide) (by decide)
    (by decide) (by decide) (by decide) (by decide)).1⟩

end MoqQuic.Quic
